import NetworkControl.PortEntry
import NetworkControl.TextLines

/-!
# Files that are read back

Which files `LoadClientConfig` reads to a given configuration. Each key has
its line, in any order and with any blanks; the ports may have a comment
after them; and between these lines there may be any others that set no
known key (`ConfigLine`). A line only says something by its first `=`, so a
host may contain more of them, or a `#`.

What a line does is `readLine_entry`, for a line with a key, and one lemma
for each kind of the others. From there the file is a fold, and a key that
has its line is set in the end (`known_foldl`).
-/

namespace NetworkControl

open Numerals TextLines

namespace Config

/-! ## What is written -/

inductive ConfigKey where
  | host
  | port (field : PortField)
deriving DecidableEq, Repr

def ConfigKey.text : ConfigKey → List Char
  | .host => "Host".toList
  | .port field => field.key.toList

/-- Blanks, as `Trim` has them. -/
def Blanks (text : List Char) : Prop := ∀ c ∈ text, isBlank c = true

/-- What stands behind the `=` and its blanks: the host, or the digits of
the port and perhaps a comment. -/
def Writes (config : ClientConfig) : ConfigKey → List Char → Prop
  | .host, text =>
      ∃ blanks, text = config.host.toList ++ blanks ∧ Blanks blanks
  | .port field, text =>
      ∃ digits blanks comment,
        text = digits ++ (blanks ++ comment) ∧ digits ≠ []
          ∧ (∀ c ∈ digits, c.isDigit = true)
          ∧ Nat.ofDigitChars 10 digits 0 = (config.port field).toNat
          ∧ Blanks blanks ∧ (comment = [] ∨ comment.head? = some '#')

/-- The kinds of lines. Those of no key are lines without `=`, blank ones
among them, comments, and lines with other keys. -/
inductive ConfigLine (config : ClientConfig) :
    Option ConfigKey → List Char → Prop
  | entry (key : ConfigKey) {b₁ b₂ b₃ text : List Char} (h₁ : Blanks b₁)
      (h₂ : Blanks b₂) (h₃ : Blanks b₃) (htext : Writes config key text) :
      ConfigLine config (some key)
        ((b₁ ++ key.text ++ b₂) ++ '=' :: (b₃ ++ text))
  | plain {line : List Char} (h : '=' ∉ line) : ConfigLine config none line
  | comment {blanks : List Char} (hblanks : Blanks blanks) {c : Char}
      (hc : c = '#' ∨ c = ';') (rest : List Char) :
      ConfigLine config none (blanks ++ c :: rest)
  | unknown {k : List Char} (hk : '=' ∉ k)
      (hunknown : ∀ key : ConfigKey, trim k ≠ key.text) (r : List Char) :
      ConfigLine config none (k ++ '=' :: r)

/-- A configuration that a file can hold. -/
structure Writable (config : ClientConfig) : Prop where
  host_ne_nil : config.host.toList ≠ []
  host_head : ∀ c ∈ config.host.toList.head?, isBlank c = false
  host_last : ∀ c ∈ config.host.toList.getLast?, isBlank c = false
  host_line : '\n' ∉ config.host.toList
  ports : ∀ field, 1 ≤ (config.port field).toNat

/-- A file in which every key has its line. -/
def WrittenFor (config : ClientConfig) (contents : List Char) : Prop :=
  ∃ (keys : List (Option ConfigKey)) (lines : List (List Char)),
    Lines lines contents ∧ (∀ line ∈ lines, '\n' ∉ line)
      ∧ List.Forall₂ (ConfigLine config) keys lines
      ∧ ∀ key, some key ∈ keys

/-! ## Lines -/

section

variable {values : KeyValues} {k r line : List Char}

theorem trim_eq (text : List Char) :
    trim text = TextLines.trim isBlank text := rfl

theorem not_isBlank_eq : isBlank '=' = false := rfl

theorem findIdx?_separator (h : '=' ∉ k) (r : List Char) :
    (k ++ '=' :: r).findIdx? (· = '=') = some k.length := by
  have hnone : k.findIdx? (· = '=') = none := by
    refine List.findIdx?_eq_none_iff.mpr fun c hc => ?_
    rw [decide_eq_false_iff_not]
    rintro rfl
    exact h hc
  rw [List.findIdx?_append, hnone, Option.none_or, List.findIdx?_cons,
    if_pos (by decide), Option.map_some, Nat.zero_add]

/-- A line with an `=`: what is before the first one is the key, what is
after it the value. -/
theorem readLine_separator (h : '=' ∉ k) (r : List Char) :
    readLine values (k ++ '=' :: r)
      = if (trim k).head? = some '#' ∨ (trim k).head? = some ';'
            ∨ trim k = [] then values
        else Function.update values (trim k) (some (trim r)) := by
  have htrim : trim (k ++ '=' :: r)
      = k.dropWhile isBlank ++ '=' :: r.rdropWhile isBlank := by
    rw [trim_eq, trim_append_stop k not_isBlank_eq]
  have hk : '=' ∉ k.dropWhile isBlank :=
    fun hmem => h ((List.dropWhile_sublist _).subset hmem)
  have hkey : trim (k.dropWhile isBlank) = trim k := trim_dropWhile k
  have hvalue : trim (r.rdropWhile isBlank) = trim r := trim_rdropWhile r
  have hhead : (trim k).head? = (k.dropWhile isBlank).head? := head?_trim k
  have hrest : (k.dropWhile isBlank ++ '=' :: r.rdropWhile isBlank).drop
      ((k.dropWhile isBlank).length + 1) = r.rdropWhile isBlank := by
    rw [List.drop_append, List.drop_eq_nil_of_le (by omega),
      Nat.add_sub_cancel_left]
    rfl
  unfold readLine
  dsimp only
  rw [htrim, findIdx?_separator hk]
  dsimp only
  rw [List.take_left, hrest, hkey, hvalue]
  cases hfirst : k.dropWhile isBlank with
  | nil =>
      have hnil : trim k = [] := by
        rw [hfirst] at hhead
        exact List.head?_eq_none_iff.mp hhead
      rw [hnil, if_pos rfl, if_pos (Or.inr (Or.inr rfl)), ite_self]
  | cons c rest =>
      have hne : trim k ≠ [] := by
        intro hnil
        rw [hnil, hfirst] at hhead
        cases hhead
      rw [hhead, hfirst, if_neg hne]
      simp only [List.cons_append, List.head?_cons, reduceCtorEq, false_or,
        hne, or_false]

theorem readLine_other {key : List Char} (h : '=' ∉ k) (hkey : trim k ≠ key)
    (r : List Char) : readLine values (k ++ '=' :: r) key = values key := by
  rw [readLine_separator h]
  split
  · rfl
  · exact Function.update_of_ne (Ne.symm hkey) _ _

theorem readLine_plain (h : '=' ∉ line) : readLine values line = values := by
  have hnone : (trim line).findIdx? (· = '=') = none := by
    refine List.findIdx?_eq_none_iff.mpr fun c hc => ?_
    rw [decide_eq_false_iff_not]
    rintro rfl
    exact h (mem_of_mem_trim hc)
  unfold readLine
  dsimp only
  rw [hnone]
  exact ite_self _

theorem readLine_comment {blanks : List Char} (hblanks : Blanks blanks)
    {c : Char} (hc : c = '#' ∨ c = ';') (rest : List Char) :
    readLine values (blanks ++ c :: rest) = values := by
  have hblank : isBlank c = false := by
    rcases hc with rfl | rfl <;> rfl
  have hhead : (trim (blanks ++ c :: rest)).head? = some c := by
    rw [trim_eq, trim_append_left hblanks, head?_trim,
      List.dropWhile_cons_of_neg (by simp [hblank])]
    rfl
  unfold readLine
  dsimp only
  rw [if_pos]
  right
  rw [hhead]
  rcases hc with rfl | rfl
  · exact Or.inl rfl
  · exact Or.inr rfl

/-- Blanks at the end of a line, a carriage return say, are not seen. -/
theorem readLine_append_blanks (values : KeyValues) (line : List Char)
    {blanks : List Char} (h : Blanks blanks) :
    readLine values (line ++ blanks) = readLine values line := by
  have htrim : trim (line ++ blanks) = trim line := trim_append_right line h
  unfold readLine
  rw [htrim]

end

/-! ## Keys -/

theorem ConfigKey.text_injective : Function.Injective ConfigKey.text := by
  intro key key' h
  cases key with
  | host =>
      cases key' with
      | host => rfl
      | port field => cases field <;> exact absurd h (by decide)
  | port field =>
      cases key' with
      | host => cases field <;> exact absurd h (by decide)
      | port field' =>
          cases field <;> cases field' <;>
            first
            | rfl
            | exact absurd h (by decide)

/-- A key has no blanks to take off, is no comment and has no `=`. -/
theorem ConfigKey.text_spec (key : ConfigKey) :
    trim key.text = key.text ∧ key.text ≠ []
      ∧ key.text.head? ≠ some '#' ∧ key.text.head? ≠ some ';'
      ∧ '=' ∉ key.text := by
  cases key with
  | host => decide
  | port field => cases field <;> decide

theorem Blanks.not_mem {blanks : List Char} (h : Blanks blanks) :
    '=' ∉ blanks :=
  fun hmem => Bool.false_ne_true (h _ hmem)

theorem readLine_entry (values : KeyValues) (key : ConfigKey)
    {b₁ b₂ b₃ : List Char} (h₁ : Blanks b₁) (h₂ : Blanks b₂)
    (h₃ : Blanks b₃) (text : List Char) :
    readLine values ((b₁ ++ key.text ++ b₂) ++ '=' :: (b₃ ++ text))
      = Function.update values key.text (some (trim text)) := by
  obtain ⟨htrim, hne, hhash, hsemicolon, hseparator⟩ := key.text_spec
  have hmem : '=' ∉ b₁ ++ key.text ++ b₂ := by
    rw [List.mem_append, List.mem_append, not_or, not_or]
    exact ⟨⟨h₁.not_mem, hseparator⟩, h₂.not_mem⟩
  have hkey : trim (b₁ ++ key.text ++ b₂) = key.text := by
    rw [trim_eq, trim_append_right _ h₂, trim_append_left h₁]
    exact htrim
  have hvalue : trim (b₃ ++ text) = trim text := trim_append_left h₃ text
  rw [readLine_separator hmem, hkey, hvalue, if_neg]
  rintro (h | h | h)
  · exact hhash h
  · exact hsemicolon h
  · exact hne h

/-! ## What a file says -/

section

variable {config : ClientConfig}

/-- What the value of a key is read to. -/
def Reads (config : ClientConfig) : ConfigKey → List Char → Prop
  | .host, value => value = config.host.toList
  | .port field, value =>
      (scan value).value = ((config.port field).toNat : ℤ)

def Known (config : ClientConfig) (values : KeyValues) (key : ConfigKey) :
    Prop :=
  ∃ value, values key.text = some value ∧ Reads config key value

theorem not_isBlank_of_isDigit {c : Char} (h : c.isDigit = true) :
    isBlank c = false := by
  by_contra hblank
  have hb : isBlank c = true := by simpa using hblank
  unfold isBlank at hb
  simp only [Bool.or_eq_true, decide_eq_true_eq] at hb
  rcases hb with ((rfl | rfl) | rfl) | rfl <;> exact absurd h (by decide)

/-- Digits are not trimmed, and what follows them only at its end. -/
theorem trim_digits {digits : List Char} (hne : digits ≠ [])
    (hdigits : ∀ c ∈ digits, c.isDigit = true) (tail : List Char) :
    trim (digits ++ tail) = digits ++ tail.rdropWhile isBlank := by
  have hhead : ∀ c ∈ (digits ++ tail).head?, isBlank c = false := by
    intro c hc
    rw [List.head?_append_of_ne_nil _ hne] at hc
    exact not_isBlank_of_isDigit (hdigits c (List.mem_of_mem_head? hc))
  have hlast : isBlank (digits.getLast hne) = false :=
    not_isBlank_of_isDigit (hdigits _ (List.getLast_mem hne))
  have hsplit : digits ++ tail
      = digits.dropLast ++ digits.getLast hne :: tail := by
    conv_lhs => rw [← List.dropLast_append_getLast hne]
    rw [List.append_assoc]
    rfl
  rw [trim_eq, TextLines.trim, dropWhile_eq_self hhead, hsplit,
    rdropWhile_append_stop _ hlast]
  conv_rhs => rw [← List.dropLast_append_getLast hne]
  rw [List.append_assoc]
  rfl

/-- The number a port's text begins with. -/
theorem scan_digits {digits : List Char} (hne : digits ≠ [])
    (hdigits : ∀ c ∈ digits, c.isDigit = true) {rest : List Char}
    (hrest : ∀ c ∈ rest.head?, c.isDigit = false) :
    (scan (digits ++ rest)).value = (Nat.ofDigitChars 10 digits 0 : ℤ) := by
  let n : Numeral :=
    { blanks := []
      sign := .none
      digits
      blanks_isSpace := fun _ hc => nomatch hc
      digits_ne_nil := hne
      digits_isDigit := hdigits }
  have hscan := scan_text n hrest
  have htext : n.text = digits := rfl
  rw [htext] at hscan
  rw [hscan]
  rfl

/-- What is written is read. -/
theorem Writes.reads (hconfig : Writable config) {key : ConfigKey}
    {text : List Char} (h : Writes config key text) :
    Reads config key (trim text) := by
  cases key with
  | host =>
      obtain ⟨blanks, rfl, hblanks⟩ := h
      show trim _ = _
      rw [trim_eq, trim_append_right _ hblanks]
      exact trim_eq_self hconfig.host_head hconfig.host_last
  | port field =>
      obtain ⟨digits, blanks, comment, rfl, hne, hdigits, hvalue, hblanks,
        hcomment⟩ := h
      have htail : ∀ c ∈ (blanks ++ comment).head?, c.isDigit = false := by
        intro c hc
        cases blanks with
        | nil =>
            rcases hcomment with rfl | hhash
            · cases hc
            · obtain rfl : '#' = c := by
                rw [List.nil_append, hhash] at hc
                exact Option.some.inj hc
              rfl
        | cons b blanks =>
            obtain rfl : b = c := Option.some.inj hc
            by_contra hdigit
            have hblank := hblanks b List.mem_cons_self
            rw [not_isBlank_of_isDigit (by simpa using hdigit)] at hblank
            cases hblank
      have hrest : ∀ c ∈ ((blanks ++ comment).rdropWhile isBlank).head?,
          c.isDigit = false := by
        intro c hc
        obtain ⟨dropped, hdropped⟩ :=
          List.rdropWhile_prefix isBlank (blanks ++ comment)
        refine htail c ?_
        rw [← hdropped]
        exact List.mem_head?_append_of_mem_head? hc
      show (scan (trim _)).value = _
      rw [trim_digits hne hdigits, scan_digits hne hdigits hrest, hvalue]

/-- A line with the key makes it known. -/
theorem known_of_line (hconfig : Writable config) {key : ConfigKey}
    {line : List Char} (h : ConfigLine config (some key) line)
    (values : KeyValues) : Known config (readLine values line) key := by
  cases h with
  | entry key h₁ h₂ h₃ htext =>
      rw [Known, readLine_entry values key h₁ h₂ h₃]
      exact ⟨_, Function.update_self _ _ _, htext.reads hconfig⟩

/-- No line makes it unknown again. -/
theorem Known.readLine (hconfig : Writable config) {values : KeyValues}
    {key : ConfigKey} (h : Known config values key)
    {key' : Option ConfigKey} {line : List Char}
    (hline : ConfigLine config key' line) :
    Known config (readLine values line) key := by
  cases hline with
  | entry key' h₁ h₂ h₃ htext =>
      by_cases hkey : key = key'
      · subst hkey
        exact known_of_line hconfig (.entry key h₁ h₂ h₃ htext) values
      · rw [Known, readLine_entry values key' h₁ h₂ h₃,
          Function.update_of_ne (ConfigKey.text_injective.ne hkey)]
        exact h
  | plain hplain =>
      rw [readLine_plain hplain]
      exact h
  | comment hblanks hc rest =>
      rw [readLine_comment hblanks hc]
      exact h
  | unknown hk hunknown r =>
      rw [Known, readLine_other hk (hunknown key)]
      exact h

theorem known_foldl (hconfig : Writable config)
    {keys : List (Option ConfigKey)} {lines : List (List Char)}
    (hlines : List.Forall₂ (ConfigLine config) keys lines) {key : ConfigKey}
    {values : KeyValues}
    (h : some key ∈ keys ∨ Known config values key) :
    Known config (lines.foldl Config.readLine values) key := by
  induction hlines generalizing values with
  | nil => exact h.resolve_left List.not_mem_nil
  | cons hline _ ih =>
      rw [List.foldl_cons]
      rcases h with hmem | hknown
      · rcases List.mem_cons.mp hmem with rfl | hlater
        · exact ih (Or.inr (known_of_line hconfig hline values))
        · exact ih (Or.inl hlater)
      · exact ih (Or.inr (hknown.readLine hconfig hline))

end

/-! ## The file -/

/-- An empty last line is not one, and would say nothing. -/
theorem foldl_getLines (contents : List Char) (values : KeyValues) :
    (getLines contents).foldl readLine values
      = (contents.splitOn '\n').foldl readLine values := by
  unfold getLines
  dsimp only
  split
  · rename_i hlast
    obtain ⟨lines, hlines⟩ := List.getLast?_eq_some_iff.mp hlast
    rw [hlines, List.dropLast_concat, List.foldl_concat]
    rfl
  · rfl

section

variable {config : ClientConfig} {contents : List Char}

/-- The values of a file in which every key has its line. -/
theorem WrittenFor.known (h : WrittenFor config contents)
    (hconfig : Writable config) (key : ConfigKey) :
    Known config ((getLines contents).foldl readLine fun _ => none) key := by
  obtain ⟨keys, lines, hlines, hnewline, hkinds, hkeys⟩ := h
  have hreturn : ∀ (values : KeyValues) (line : List Char),
      readLine values (line ++ ['\r']) = readLine values line := by
    intro values line
    refine readLine_append_blanks values line fun c hc => ?_
    rw [List.mem_singleton.mp hc]
    rfl
  rw [foldl_getLines, foldl_splitOn (fun _ => rfl) hreturn hlines hnewline]
  exact known_foldl hconfig hkinds (Or.inl (hkeys key))

theorem applyPort_of_known {values : KeyValues} {field : PortField}
    (h : Known config values (.port field))
    (hport : 1 ≤ (config.port field).toNat) (port : UInt16) :
    applyPort values field.key port = config.port field := by
  obtain ⟨value, hvalue, hreads⟩ := h
  have hreads : (scan value).value = ((config.port field).toNat : ℤ) := hreads
  have hlt := (config.port field).toNat_lt
  rw [applyPort_of_text hvalue, hreads, if_pos ⟨by omega, by omega⟩,
    Int.toNat_natCast, UInt16.ofNat_toNat]

theorem loadClientConfig_written (hconfig : Writable config)
    (hfile : WrittenFor config contents) (previous : ClientConfig) :
    loadClientConfig (some contents) previous = (true, config) := by
  have hknown := hfile.known hconfig
  obtain ⟨value, hhost, hreads⟩ := hknown .host
  obtain rfl : value = config.host.toList := hreads
  have hhost : ((getLines contents).foldl readLine fun _ => none)
      "Host".toList = some config.host.toList := hhost
  have hports : ∀ field port, applyPort
      ((getLines contents).foldl readLine fun _ => none) (PortField.key field)
      port = config.port field :=
    fun field port => applyPort_of_known (hknown _) (hconfig.ports field) port
  unfold loadClientConfig tryReadKeyValues
  rw [Option.map_some]
  dsimp only
  rw [hhost]
  dsimp only
  rw [if_neg hconfig.host_ne_nil, String.ofList_toList]
  congr 2
  · exact hports .tcpPort previous.tcpPort
  · exact hports .udpPort previous.udpPort
  · exact hports .serverUdpPort previous.serverUdpPort

end

/-- Whatever the file is, a port stays or comes to be in range. -/
theorem loadClientConfig_port_inRange (file : Option (List Char))
    (previous : ClientConfig) (field : PortField) :
    (loadClientConfig file previous).2.port field = previous.port field
      ∨ 1 ≤ ((loadClientConfig file previous).2.port field).toNat
        ∧ ((loadClientConfig file previous).2.port field).toNat ≤ 65535 := by
  rw [loadClientConfig_port]
  split
  · exact Or.inl rfl
  · split
    · rename_i hrange
      right
      rw [UInt16.toNat_ofNat_of_lt' (show _ < 65536 by omega)]
      omega
    · exact Or.inl rfl

/-- A configuration that is written is read back whatever was there before,
and no file at all gives a port out of range. -/
theorem config_round_trip :
    (∀ (config : ClientConfig) (contents : List Char)
        (previous : ClientConfig),
      Writable config → WrittenFor config contents →
        loadClientConfig (some contents) previous = (true, config))
      ∧ ∀ (file : Option (List Char)) (previous : ClientConfig)
          (field : PortField),
        (loadClientConfig file previous).2.port field = previous.port field
          ∨ 1 ≤ ((loadClientConfig file previous).2.port field).toNat
            ∧ ((loadClientConfig file previous).2.port field).toNat
              ≤ 65535 :=
  ⟨fun _ _ previous hconfig hfile =>
      loadClientConfig_written hconfig hfile previous,
    loadClientConfig_port_inRange⟩

/-- The line of a port with nothing before its comment but blanks. -/
theorem portLine {config : ClientConfig} (field : PortField)
    (digits blanks comment : List Char) (hne : digits ≠ [])
    (hdigits : digits.all Char.isDigit = true)
    (hvalue : Nat.ofDigitChars 10 digits 0 = (config.port field).toNat)
    (hblanks : Blanks blanks)
    (hcomment : comment = [] ∨ comment.head? = some '#') :
    ConfigLine config (some (.port field))
      (field.key.toList ++ '=' :: (digits ++ (blanks ++ comment))) := by
  have hnone : Blanks [] := fun _ hc => nomatch hc
  have hwrites : Writes config (.port field) (digits ++ (blanks ++ comment)) :=
    ⟨digits, blanks, comment, rfl, hne, List.all_eq_true.mp hdigits, hvalue,
      hblanks, hcomment⟩
  have hline := ConfigLine.entry (.port field) hnone hnone hnone hwrites
  rwa [List.nil_append, List.append_nil] at hline

/-- A host with an `=`, a comment behind a port and both line ends. -/
theorem config_round_trip_commented :
    loadClientConfig
        (some
          ";\r\nUdpPort=6000 # =\nHost = a=b\r\n\nTcpPort=5000\nServerUdpPort=6500".toList)
        { tcpPort := 1 }
      = (true, { host := "a=b" }) := by
  refine config_round_trip.1 _ _ _ ?_ ?_
  · exact
      { host_ne_nil := by decide
        host_head := fun c hc => by
          obtain rfl : 'a' = c := Option.some.inj hc
          decide
        host_last := fun c hc => by
          obtain rfl : 'b' = c := Option.some.inj hc
          decide
        host_line := by decide
        ports := fun field => by cases field <;> decide }
  · have hnone : Blanks [] := fun _ hc => nomatch hc
    have hblank : Blanks [' '] := List.forall_mem_singleton.mpr rfl
    refine
      ⟨[none, some (.port .udpPort), some .host, none, some (.port .tcpPort),
          some (.port .serverUdpPort)],
        [";".toList, "UdpPort=6000 # =".toList, "Host = a=b".toList, [],
          "TcpPort=5000".toList, "ServerUdpPort=6500".toList],
        .cons _ .crlf (.cons _ .lf (.cons _ .crlf (.cons _ .lf
          (.cons _ .lf (.last _))))), by decide, ?_, ?_⟩
    · refine .cons (.comment hnone (Or.inr rfl) _) (.cons ?_ (.cons ?_
        (.cons (.plain (by decide)) (.cons ?_ (.cons ?_ .nil)))))
      · exact portLine .udpPort "6000".toList [' '] "# =".toList (by decide)
          (by decide) (by decide) hblank (Or.inr rfl)
      · exact @ConfigLine.entry _ .host [] [' '] [' '] "a=b".toList hnone hblank
          hblank ⟨[], rfl, hnone⟩
      · exact portLine .tcpPort "5000".toList [] [] (by decide)
          (by decide) (by decide) hnone (Or.inl rfl)
      · exact portLine .serverUdpPort "6500".toList [] [] (by decide)
          (by decide) (by decide) hnone (Or.inl rfl)
    · intro key
      cases key with
      | host => decide
      | port field => cases field <;> decide

end Config

end NetworkControl
