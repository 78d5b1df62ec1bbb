import NetworkControl.Config
import NetworkControl.MainViewModel

/-!
# Ports as they are entered

The ways a port gets to `GameClient::Connect`: `client.ini` and the
argument of `Client.exe`, the boxes of the window, and the integers given
to `ManagedGameClient::Connect`, to which the window passes its own on.

Each way checks for itself. `stoi` and `strtoul` read the number a text
begins with, and `strtoul` lets a negative number wrap around; the integers
are cast with no check at all. `ports_exact_iff` says for which requests
every port is the one that was written or was refused.
-/

namespace NetworkControl

open Numerals Config

/-! ## The fields -/

inductive PortField where
  | tcpPort
  | udpPort
  | serverUdpPort
deriving DecidableEq, Repr

def PortField.key : PortField → String
  | .tcpPort => "TcpPort"
  | .udpPort => "UdpPort"
  | .serverUdpPort => "ServerUdpPort"

def ClientConfig.port (config : ClientConfig) : PortField → UInt16
  | .tcpPort => config.tcpPort
  | .udpPort => config.udpPort
  | .serverUdpPort => config.serverUdpPort

/-! ## Client.exe -/

namespace Client

/-- What `main` makes of `argv` after the program's name. -/
def applyArguments (args : List (List Char)) (config : ClientConfig) :
    Except String ClientConfig :=
  match args with
  | [] => .ok config
  | [arg] =>
      let parsedPort := strtoul arg
      if parsedPort = 0 ∨ parsedPort > 65535 then .error "Invalid UDP port."
      else .ok { config with udpPort := parsedPort.toUInt16 }
  | _ => .error "Usage: Client.exe [udpPort]"

/-- `main` up to `RunClientControlLoop`, which begins by connecting. The
source starts from the default `config`. -/
def main (file : Option (List Char)) (args : List (List Char))
    (isInitialized : Bool) (config : ClientConfig) :
    Except String ClientConfig := do
  let config ← applyArguments args (loadClientConfig file config).2
  if isInitialized then .ok config
  else .error "Winsock initialization failed."

end Client

/-! ## The window -/

namespace ManagedGameClient

/-- The configuration `ManagedGameClient::Connect` puts together. -/
def clientConfig (isInitialized : Bool) (host : String)
    (tcpPort udpPort serverUdpPort : Int32) : Option ClientConfig :=
  if !isInitialized then none
  else
    some
      { host
        tcpPort := toUInt16 tcpPort
        udpPort := toUInt16 udpPort
        serverUdpPort := toUInt16 serverUdpPort }

def connect (native : GameClient) (isInitialized : Bool) (host : String)
    (tcpPort udpPort serverUdpPort : Int32) (fails : Option ConnectStep) :
    Bool × GameClient :=
  match clientConfig isInitialized host tcpPort udpPort serverUdpPort with
  | none => (false, native)
  | some config => native.connect config fails

end ManagedGameClient

/-- The boxes the window's `Connect` reads. -/
structure ConnectBoxes where
  host : String := "127.0.0.1"
  tcpPortText : List Char := "5000".toList
  udpPortText : List Char := "6000".toList
  serverUdpPortText : List Char := "6500".toList

namespace ConnectBoxes

def portText (boxes : ConnectBoxes) : PortField → List Char
  | .tcpPort => boxes.tcpPortText
  | .udpPort => boxes.udpPortText
  | .serverUdpPort => boxes.serverUdpPortText

def ports (boxes : ConnectBoxes) : Option (Int32 × Int32 × Int32) :=
  match tryParse boxes.tcpPortText, tryParse boxes.udpPortText,
      tryParse boxes.serverUdpPortText with
  | some tcpPort, some udpPort, some serverUdpPort =>
      some (tcpPort, udpPort, serverUdpPort)
  | _, _, _ => none

end ConnectBoxes

/-- The `Connect` button. On an error it leaves a status message and does
not start the timer. -/
def MainViewModel.connect (vm : MainViewModel) (boxes : ConnectBoxes)
    (isInitialized : Bool) (fails : Option ConnectStep) :
    Except String Unit × MainViewModel :=
  match boxes.ports with
  | none => (.error "포트 값이 올바르지 않음", vm)
  | some (tcpPort, udpPort, serverUdpPort) =>
      let (connected, client) :=
        ManagedGameClient.connect vm.client isInitialized boxes.host tcpPort
          udpPort serverUdpPort fails
      let vm := { vm with client }
      if !connected then (.error "연결 실패", vm) else (.ok (), vm)

/-! ## Requests -/

inductive ConnectRequest where
  | console (file : Option (List Char)) (args : List (List Char))
  | window (boxes : ConnectBoxes)
  | managed (host : String) (tcpPort udpPort serverUdpPort : Int32)

namespace ConnectRequest

/-- The argument of `GameClient::Connect`, `none` where it is not called.
`config` is what the console client starts from. -/
def handedOver (isInitialized : Bool) (config : ClientConfig) :
    ConnectRequest → Option ClientConfig
  | .console file args =>
      (Client.main file args isInitialized config).toOption
  | .window boxes =>
      boxes.ports.bind fun (tcpPort, udpPort, serverUdpPort) =>
        ManagedGameClient.clientConfig isInitialized boxes.host tcpPort
          udpPort serverUdpPort
  | .managed host tcpPort udpPort serverUdpPort =>
      ManagedGameClient.clientConfig isInitialized host tcpPort udpPort
        serverUdpPort

end ConnectRequest

/-- The window connects with what its request hands over, or not at all. -/
theorem MainViewModel.connect_client (vm : MainViewModel)
    (boxes : ConnectBoxes) (isInitialized : Bool)
    (fails : Option ConnectStep) (config : ClientConfig) :
    (vm.connect boxes isInitialized fails).2.client
      = match (ConnectRequest.window boxes).handedOver isInitialized config with
        | none => vm.client
        | some config => (vm.client.connect config fails).2 := by
  unfold MainViewModel.connect ConnectRequest.handedOver
  dsimp only
  cases boxes.ports with
  | none => rfl
  | some ports =>
      obtain ⟨tcpPort, udpPort, serverUdpPort⟩ := ports
      unfold ManagedGameClient.connect
      rw [Option.bind_some]
      dsimp only
      cases ManagedGameClient.clientConfig isInitialized boxes.host tcpPort
        udpPort serverUdpPort with
      | none => rfl
      | some reached =>
          dsimp only
          split <;> rfl

/-! ## What is written -/

/-- What may follow a number in the file: padding, then a comment. -/
def EndsLine (rest : List Char) : Prop :=
  ∀ c ∈ ((rest.dropWhile isSpace).dropWhile (· = '\x00')).head?,
    c = '#' ∨ c = ';'

theorem EndsLine.head {rest : List Char} (h : EndsLine rest) :
    ∀ c ∈ rest.head?, c.isDigit = false := by
  cases rest with
  | nil => nofun
  | cons c rest =>
      intro d hd
      obtain rfl : c = d := by simpa using hd
      by_contra hdigit
      have hc : c.isDigit = true := by simpa using hdigit
      have hnul : decide (c = '\x00') = false := by
        rw [decide_eq_false_iff_not]
        rintro rfl
        exact absurd hc (by decide)
      unfold EndsLine at h
      rw [List.dropWhile_cons, not_isSpace_of_isDigit hc, if_neg nofun,
        List.dropWhile_cons, hnul, if_neg nofun] at h
      rcases h c rfl with rfl | rfl <;> exact absurd hc (by decide)

/-- What is given for one port. -/
inductive PortText where
  | iniValue (value : List Char)
  | entered (text : List Char)
  | integer (i : Int32)

namespace PortText

def Denotes : PortText → ℤ → Prop
  | .iniValue value, n => DenotesBefore EndsLine value n
  | .entered text, n => Numerals.Denotes text n
  | .integer i, n => n = i.toInt

def IsPort (text : PortText) (port : UInt16) : Prop :=
  1 ≤ port.toNat ∧ text.Denotes port.toNat

/-- Of an integer the cast leaves exactly the ports alone. -/
theorem isPort_toUInt16_iff {text : PortText} {i : Int32}
    (h : ∀ n, text.Denotes n ↔ n = i.toInt) :
    text.IsPort (toUInt16 i) ↔ 1 ≤ i.toInt ∧ i.toInt ≤ 65535 := by
  have hcast := toUInt16_toNat i
  unfold IsPort
  rw [h]
  omega

end PortText

/-- The port is in range and what the text denotes, or is what it was
before. -/
def ExactPort (text : Option PortText) (before port : UInt16) : Prop :=
  port = before ∨ ∃ t, text = some t ∧ t.IsPort port

def iniValue (file : Option (List Char)) (field : PortField) :
    Option (List Char) :=
  (tryReadKeyValues file).bind fun values => values field.key.toList

namespace ConnectRequest

/-- What the port is given by. An argument of the console client goes
before its file. -/
def text : ConnectRequest → PortField → Option PortText
  | .console _ [arg], .udpPort => some (.entered arg)
  | .console file _, field => (iniValue file field).map .iniValue
  | .window boxes, field => some (.entered (boxes.portText field))
  | .managed _ tcpPort _ _, .tcpPort => some (.integer tcpPort)
  | .managed _ _ udpPort _, .udpPort => some (.integer udpPort)
  | .managed _ _ _ serverUdpPort, .serverUdpPort =>
      some (.integer serverUdpPort)

/-- The ports handed over are in range and exact. A port that is what it
was before, whatever the console client starts from, is one whose text was
not used. -/
structure PortsExact (request : ConnectRequest) : Prop where
  inRange : ∀ isInitialized reached,
    request.handedOver isInitialized {} = some reached →
      ∀ field, 1 ≤ (reached.port field).toNat
  denoted : ∀ isInitialized config reached,
    request.handedOver isInitialized config = some reached →
      ∀ field,
        ExactPort (request.text field) (config.port field)
          (reached.port field)

/-- Nothing but a comment follows a number that is used. -/
def IniReadable (file : Option (List Char)) (field : PortField) : Prop :=
  ∀ value, iniValue file field = some value →
    0 < (scan value).value → (scan value).value ≤ 65535 →
      EndsLine (scan value).rest

/-- The numbers `main` lets through, as `strtoul` leaves them. -/
def ArgumentAccepted (arg : List Char) : Prop :=
  if (scan arg).isNegative then
    2 ^ 32 - 65535 ≤ (scan arg).magnitude ∧ (scan arg).magnitude < 2 ^ 32
  else 1 ≤ (scan arg).magnitude ∧ (scan arg).magnitude ≤ 65535

/-- Where every port is read as it was written. -/
def Readable : ConnectRequest → Prop
  | .console file [] => ∀ field, IniReadable file field
  | .console file [arg] =>
      ¬ ArgumentAccepted arg ∨
        ((scan arg).isNegative = false ∧ IsPadding (scan arg).rest ∧
          IniReadable file .tcpPort ∧ IniReadable file .serverUdpPort)
  | .console _ (_ :: _ :: _) => True
  | .window boxes =>
      (∃ field, ∀ i : Int32, ¬ Denotes (boxes.portText field) i.toInt) ∨
        ∀ field, ∃ n : ℤ, 1 ≤ n ∧ n ≤ 65535 ∧ Denotes (boxes.portText field) n
  | .managed _ tcpPort udpPort serverUdpPort =>
      ∀ i ∈ [tcpPort, udpPort, serverUdpPort], 1 ≤ i.toInt ∧ i.toInt ≤ 65535

/-- The ports the client starts from are in range themselves. -/
theorem PortsExact.of_denoted {request : ConnectRequest}
    (h : ∀ isInitialized config reached,
      request.handedOver isInitialized config = some reached →
        ∀ field,
          ExactPort (request.text field) (config.port field)
            (reached.port field)) :
    request.PortsExact where
  inRange := by
    intro isInitialized reached hreached field
    rcases h isInitialized {} reached hreached field with hbefore | htext
    · rw [hbefore]
      cases field <;> decide
    · obtain ⟨text, -, hport⟩ := htext
      exact hport.1
  denoted := h

end ConnectRequest

/-- A port that is the same from everywhere has to be what was written. -/
theorem exactPort_const_iff {text : PortText} {port : UInt16}
    (field : PortField) :
    (∀ config : ClientConfig,
        ExactPort (some text) (config.port field) port) ↔
      text.IsPort port := by
  constructor
  · intro h
    have hother : ∃ config : ClientConfig, port ≠ config.port field := by
      refine ⟨{ tcpPort := port + 1, udpPort := port + 1,
                serverUdpPort := port + 1 }, ?_⟩
      have hne : port ≠ port + 1 := by
        intro heq
        have := congrArg UInt16.toNat heq
        rw [UInt16.toNat_add] at this
        have hone : (1 : UInt16).toNat = 1 := rfl
        omega
      cases field <;> exact hne
    obtain ⟨config, hne⟩ := hother
    rcases h config with hbefore | htext
    · exact absurd hbefore hne
    · obtain ⟨t, ht, hport⟩ := htext
      obtain rfl := Option.some.inj ht
      exact hport
  · exact fun h config => Or.inr ⟨text, rfl, h⟩

/-! ## The file -/

theorem loadClientConfig_port (file : Option (List Char))
    (config : ClientConfig) (field : PortField) :
    (loadClientConfig file config).2.port field
      = match iniValue file field with
        | none => config.port field
        | some value =>
            if 0 < (scan value).value ∧ (scan value).value ≤ 65535 then
              UInt16.ofNat (scan value).value.toNat
            else config.port field := by
  unfold loadClientConfig iniValue
  cases tryReadKeyValues file with
  | none => rfl
  | some values =>
      have happly : ∀ host : String,
          ({ host
             tcpPort := applyPort values "TcpPort" config.tcpPort
             udpPort := applyPort values "UdpPort" config.udpPort
             serverUdpPort :=
              applyPort values "ServerUdpPort" config.serverUdpPort }
            : ClientConfig).port field
            = applyPort values field.key (config.port field) := by
        intro host
        cases field <;> rfl
      dsimp only [Option.bind_some]
      rw [happly]
      cases hvalue : values field.key.toList with
      | none => exact applyPort_of_none hvalue _
      | some value => exact applyPort_of_text hvalue _

/-- The number at the head of a value is what the value denotes, or is
refused, unless something else than a comment comes after it. -/
theorem iniPort_exact_iff (file : Option (List Char)) (field : PortField) :
    (∀ config : ClientConfig,
        ExactPort ((iniValue file field).map .iniValue) (config.port field)
          ((loadClientConfig file config).2.port field)) ↔
      ConnectRequest.IniReadable file field := by
  have hload := loadClientConfig_port file
  unfold ConnectRequest.IniReadable
  cases hini : iniValue file field with
  | none =>
      refine ⟨fun _ => nofun, fun _ config => Or.inl ?_⟩
      rw [hload, hini]
  | some value =>
      by_cases hrange : 0 < (scan value).value ∧ (scan value).value ≤ 65535
      · have hport : ∀ config : ClientConfig,
            (loadClientConfig file config).2.port field
              = UInt16.ofNat (scan value).value.toNat := by
          intro config
          rw [hload, hini]
          exact if_pos hrange
        have hnat : ((UInt16.ofNat (scan value).value.toNat).toNat : ℤ)
            = (scan value).value := by
          rw [UInt16.toNat_ofNat_of_lt' (show _ < 65536 by omega)]
          omega
        have hdigits : (scan value).digits ≠ [] := by
          intro hnil
          rw [Scan.value_of_nil hnil] at hrange
          exact lt_irrefl 0 hrange.1
        simp only [hport, Option.map_some]
        rw [exactPort_const_iff]
        unfold PortText.IsPort PortText.Denotes
        dsimp only
        rw [hnat, denotesBefore_iff fun _ h => h.head]
        constructor
        · rintro ⟨-, -, hrest, -⟩ value' hvalue' - -
          obtain rfl := Option.some.inj hvalue'
          exact hrest
        · intro h
          exact ⟨by omega, hdigits, h value rfl hrange.1 hrange.2, rfl⟩
      · constructor
        · rintro - value' hvalue' hpos hle
          obtain rfl := Option.some.inj hvalue'
          exact absurd ⟨hpos, hle⟩ hrange
        · intro _ config
          left
          rw [hload, hini]
          exact if_neg hrange

/-! ## The argument -/

namespace Client

open ConnectRequest (ArgumentAccepted)

variable {arg : List Char}

/-- An accepted argument sets the port to its magnitude, or to what a
negative one wraps around to. -/
theorem applyArguments_of_accepted (h : ArgumentAccepted arg) :
    ∃ port : UInt16,
      (∀ config, applyArguments [arg] config
        = .ok { config with udpPort := port }) ∧ 1 ≤ port.toNat ∧
      port.toNat
        = if (scan arg).isNegative then 2 ^ 32 - (scan arg).magnitude
          else (scan arg).magnitude := by
  have hnat : 1 ≤ (strtoul arg).toNat ∧ (strtoul arg).toNat ≤ 65535 ∧
      (strtoul arg).toNat
        = if (scan arg).isNegative then 2 ^ 32 - (scan arg).magnitude
          else (scan arg).magnitude := by
    unfold ConnectRequest.ArgumentAccepted at h
    cases hneg : (scan arg).isNegative with
    | true =>
        rw [hneg, if_pos rfl] at h
        rw [if_pos rfl, strtoul_toNat_neg hneg h.2]
        omega
    | false =>
        rw [hneg, if_neg nofun] at h
        rw [if_neg nofun, strtoul_toNat hneg]
        omega
  obtain ⟨hpos, hle, hvalue⟩ := hnat
  have hcast : (strtoul arg).toUInt16.toNat = (strtoul arg).toNat := by
    rw [UInt32.toNat_toUInt16]
    omega
  refine ⟨(strtoul arg).toUInt16, ?_, by omega, by omega⟩
  intro config
  unfold applyArguments
  dsimp only
  rw [if_neg]
  rintro (hzero | hlarge)
  · rw [hzero] at hpos
    exact absurd hpos (by decide)
  · have : 65535 < (strtoul arg).toNat := hlarge
    omega

theorem applyArguments_of_refused (h : ¬ ArgumentAccepted arg) :
    applyArguments [arg] config = .error "Invalid UDP port." := by
  have hnat : (strtoul arg).toNat = 0 ∨ 65535 < (strtoul arg).toNat := by
    unfold ConnectRequest.ArgumentAccepted at h
    by_cases hfits : 2 ^ 32 ≤ (scan arg).magnitude
    · rw [strtoul_toNat_large hfits]
      omega
    · cases hneg : (scan arg).isNegative with
      | true =>
          rw [hneg, if_pos rfl] at h
          rw [strtoul_toNat_neg hneg (by omega)]
          omega
      | false =>
          rw [hneg, if_neg nofun] at h
          rw [strtoul_toNat hneg]
          omega
  unfold applyArguments
  dsimp only
  rw [if_pos]
  rcases hnat with hzero | hlarge
  · exact Or.inl (UInt32.toNat_inj.mp hzero)
  · exact Or.inr hlarge

end Client

/-- A negative number denotes no port, and without a sign the number is the
port as long as nothing comes after it. -/
theorem argument_isPort_iff {arg : List Char} {port : UInt16}
    (hpos : 1 ≤ port.toNat)
    (hport : port.toNat
      = if (scan arg).isNegative then 2 ^ 32 - (scan arg).magnitude
        else (scan arg).magnitude) :
    (PortText.entered arg).IsPort port ↔
      (scan arg).isNegative = false ∧ IsPadding (scan arg).rest := by
  unfold PortText.IsPort PortText.Denotes
  dsimp only
  rw [denotes_iff]
  cases hneg : (scan arg).isNegative with
  | true =>
      constructor
      · rintro ⟨-, -, -, hvalue⟩
        rw [Scan.value_of_isNegative hneg] at hvalue
        omega
      · rintro ⟨hfalse, -⟩
        cases hfalse
  | false =>
      rw [hneg, if_neg nofun] at hport
      have hvalue : (scan arg).value = (port.toNat : ℤ) := by
        rw [Scan.value_of_not_isNegative hneg, hport]
      have hdigits : (scan arg).digits ≠ [] := by
        intro hnil
        rw [Scan.value_of_nil hnil] at hvalue
        omega
      exact ⟨fun h => ⟨rfl, h.2.2.1⟩, fun h => ⟨hpos, hdigits, h.2, hvalue⟩⟩

theorem handedOver_console (file : Option (List Char))
    (args : List (List Char)) (isInitialized : Bool) (config : ClientConfig) :
    (ConnectRequest.console file args).handedOver isInitialized config
      = if isInitialized then
          (Client.applyArguments args (loadClientConfig file config).2).toOption
        else none := by
  unfold ConnectRequest.handedOver
  dsimp only
  unfold Client.main
  cases Client.applyArguments args (loadClientConfig file config).2 with
  | error message => cases isInitialized <;> rfl
  | ok config => cases isInitialized <;> rfl

namespace ConnectRequest

variable {file : Option (List Char)}

/-! ## Which requests are exact -/

/-- Without an argument every port comes from the file. -/
theorem portsExact_file_iff :
    (console file []).PortsExact ↔ (console file []).Readable := by
  have hover := handedOver_console file []
  constructor
  · intro h field
    refine (iniPort_exact_iff file field).mp fun config => ?_
    exact h.denoted true config _ (hover true config) field
  · intro h
    refine PortsExact.of_denoted ?_
    intro isInitialized config reached hreached field
    rw [hover] at hreached
    split at hreached
    · obtain rfl := Option.some.inj hreached
      exact (iniPort_exact_iff file field).mpr (h field) config
    · cases hreached

/-- An accepted argument takes the place of the file's own port. -/
theorem portsExact_argument_iff {arg : List Char} :
    (console file [arg]).PortsExact ↔ (console file [arg]).Readable := by
  have hover := handedOver_console file [arg]
  by_cases haccepted : ArgumentAccepted arg
  · obtain ⟨port, happly, hpos, hport⟩ :=
      Client.applyArguments_of_accepted haccepted
    have hover : ∀ config,
        (console file [arg]).handedOver true config
          = some { (loadClientConfig file config).2 with udpPort := port } := by
      intro config
      rw [hover, happly]
      rfl
    have hudp : (PortText.entered arg).IsPort port ↔
        (scan arg).isNegative = false ∧ IsPadding (scan arg).rest :=
      argument_isPort_iff hpos hport
    constructor
    · intro h
      have hexact := fun config => h.denoted true config _ (hover config)
      obtain ⟨hneg, hrest⟩ := hudp.mp <|
        (exactPort_const_iff .udpPort).mp fun config =>
          hexact config .udpPort
      refine Or.inr ⟨hneg, hrest, ?_, ?_⟩
      · exact (iniPort_exact_iff file .tcpPort).mp fun config =>
          hexact config .tcpPort
      · exact (iniPort_exact_iff file .serverUdpPort).mp fun config =>
          hexact config .serverUdpPort
    · rintro (hrefused | ⟨hneg, hrest, htcp, hserver⟩)
      · exact absurd haccepted hrefused
      · refine PortsExact.of_denoted ?_
        intro isInitialized config reached hreached field
        cases isInitialized with
        | false =>
            rw [handedOver_console] at hreached
            cases hreached
        | true =>
            rw [hover] at hreached
            obtain rfl := Option.some.inj hreached
            cases field with
            | tcpPort => exact (iniPort_exact_iff file .tcpPort).mpr htcp config
            | udpPort => exact Or.inr ⟨_, rfl, hudp.mpr ⟨hneg, hrest⟩⟩
            | serverUdpPort =>
                exact (iniPort_exact_iff file .serverUdpPort).mpr hserver config
  · refine ⟨fun _ => Or.inl haccepted, fun _ => PortsExact.of_denoted ?_⟩
    intro isInitialized config reached hreached
    rw [hover, Client.applyArguments_of_refused haccepted] at hreached
    split at hreached <;> cases hreached

/-- Integers that are cast are exact where they are ports already. -/
theorem portsExact_cast_iff {request : ConnectRequest} (host : String)
    (ports : PortField → Int32)
    (hover : ∀ isInitialized config,
      request.handedOver isInitialized config
        = ManagedGameClient.clientConfig isInitialized host (ports .tcpPort)
            (ports .udpPort) (ports .serverUdpPort))
    (htext : ∀ field, ∃ text, request.text field = some text ∧
      ∀ n, text.Denotes n ↔ n = (ports field).toInt) :
    request.PortsExact ↔
      ∀ field, 1 ≤ (ports field).toInt ∧ (ports field).toInt ≤ 65535 := by
  have hport : ∀ field : PortField,
      ({ host
         tcpPort := toUInt16 (ports .tcpPort)
         udpPort := toUInt16 (ports .udpPort)
         serverUdpPort := toUInt16 (ports .serverUdpPort) }
        : ClientConfig).port field = toUInt16 (ports field) := by
    intro field
    cases field <;> rfl
  constructor
  · intro h field
    obtain ⟨text, hgiven, hdenotes⟩ := htext field
    refine (PortText.isPort_toUInt16_iff hdenotes).mp ?_
    refine (exactPort_const_iff field).mp fun config => ?_
    rw [← hgiven, ← hport]
    exact h.denoted true config _ (hover true config) field
  · intro h
    refine PortsExact.of_denoted ?_
    intro isInitialized config reached hreached field
    rw [hover] at hreached
    unfold ManagedGameClient.clientConfig at hreached
    split at hreached
    · cases hreached
    · obtain rfl := Option.some.inj hreached
      obtain ⟨text, hgiven, hdenotes⟩ := htext field
      rw [hport]
      exact Or.inr
        ⟨text, hgiven, (PortText.isPort_toUInt16_iff hdenotes).mpr (h field)⟩

theorem portsExact_managed_iff {host : String}
    {tcpPort udpPort serverUdpPort : Int32} :
    (managed host tcpPort udpPort serverUdpPort).PortsExact ↔
      (managed host tcpPort udpPort serverUdpPort).Readable := by
  rw [portsExact_cast_iff host
    (fun
      | .tcpPort => tcpPort
      | .udpPort => udpPort
      | .serverUdpPort => serverUdpPort)
    (fun _ _ => rfl)]
  · unfold Readable
    constructor
    · intro h i hi
      simp only [List.mem_cons, List.not_mem_nil, or_false] at hi
      rcases hi with rfl | rfl | rfl
      · exact h .tcpPort
      · exact h .udpPort
      · exact h .serverUdpPort
    · intro h field
      cases field <;> exact h _ (by simp)
  · intro field
    cases field <;> exact ⟨_, rfl, fun _ => Iff.rfl⟩

/-- A box that holds no `int` refuses all three. -/
theorem ports_of_none {boxes : ConnectBoxes} {field : PortField}
    (h : tryParse (boxes.portText field) = none) : boxes.ports = none := by
  unfold ConnectBoxes.ports
  split
  · rename_i htcp hudp hserver
    cases field with
    | tcpPort => exact absurd (h.symm.trans htcp) nofun
    | udpPort => exact absurd (h.symm.trans hudp) nofun
    | serverUdpPort => exact absurd (h.symm.trans hserver) nofun
  · rfl

theorem ports_of_some {boxes : ConnectBoxes} {ports : PortField → Int32}
    (h : ∀ field, tryParse (boxes.portText field) = some (ports field)) :
    boxes.ports
      = some (ports .tcpPort, ports .udpPort, ports .serverUdpPort) := by
  have htcp : tryParse boxes.tcpPortText = some _ := h .tcpPort
  have hudp : tryParse boxes.udpPortText = some _ := h .udpPort
  have hserver : tryParse boxes.serverUdpPortText = some _ := h .serverUdpPort
  unfold ConnectBoxes.ports
  rw [htcp, hudp, hserver]

theorem handedOver_window {boxes : ConnectBoxes} {isInitialized : Bool}
    {config : ClientConfig} :
    (window boxes).handedOver isInitialized config
      = boxes.ports.bind fun (tcpPort, udpPort, serverUdpPort) =>
          ManagedGameClient.clientConfig isInitialized boxes.host tcpPort
            udpPort serverUdpPort :=
  rfl

theorem portsExact_window_iff {boxes : ConnectBoxes} :
    (window boxes).PortsExact ↔ (window boxes).Readable := by
  by_cases hbad : ∃ field, tryParse (boxes.portText field) = none
  · obtain ⟨field, hnone⟩ := hbad
    refine ⟨fun _ => Or.inl ⟨field, ?_⟩, fun _ => PortsExact.of_denoted ?_⟩
    · intro i hi
      rw [tryParse_eq_some_iff.mpr hi] at hnone
      cases hnone
    · intro isInitialized config reached hreached
      rw [handedOver_window, ports_of_none hnone] at hreached
      cases hreached
  · have hparsed : ∀ field, ∃ i, tryParse (boxes.portText field) = some i :=
      fun field => Option.ne_none_iff_exists'.mp (not_exists.mp hbad field)
    choose ports hports using hparsed
    have hdenotes : ∀ field,
        Denotes (boxes.portText field) (ports field).toInt :=
      fun field => tryParse_eq_some_iff.mp (hports field)
    rw [portsExact_cast_iff boxes.host ports]
    · constructor
      · intro h
        exact Or.inr fun field =>
          ⟨_, (h field).1, (h field).2, hdenotes field⟩
      · rintro (⟨field, hnone⟩ | h) field'
        · exact absurd (hdenotes field) (hnone _)
        · obtain ⟨n, hpos, hle, hn⟩ := h field'
          obtain rfl := hn.unique (hdenotes field')
          exact ⟨hpos, hle⟩
    · intro isInitialized config
      rw [handedOver_window, ports_of_some hports]
      rfl
    · intro field
      exact ⟨_, rfl, fun n =>
        ⟨fun hn => hn.unique (hdenotes field), fun hn => hn ▸ hdenotes field⟩⟩

/-- Ports are exact or refused exactly where the texts are readable. -/
theorem ports_exact_iff (request : ConnectRequest) :
    request.PortsExact ↔ request.Readable := by
  cases request with
  | console file args =>
      match args with
      | [] => exact portsExact_file_iff
      | [arg] => exact portsExact_argument_iff
      | first :: second :: rest =>
          refine ⟨fun _ => trivial, fun _ => PortsExact.of_denoted ?_⟩
          intro isInitialized config reached hreached
          rw [handedOver_console] at hreached
          split at hreached <;> cases hreached
  | window boxes => exact portsExact_window_iff
  | managed host tcpPort udpPort serverUdpPort =>
      exact portsExact_managed_iff

/-- 70000 in the first box connects to port 4464. -/
theorem ports_not_exact :
    (window { tcpPortText := "70000".toList }).handedOver true {}
        = some { tcpPort := 4464 } ∧
      ¬ ∀ request : ConnectRequest, request.PortsExact := by
  have hover : (window { tcpPortText := "70000".toList }).handedOver true {}
      = some { tcpPort := 4464 } := by
    rw [handedOver_window]
    rfl
  refine ⟨hover, fun h => ?_⟩
  rcases (h _).denoted true {} _ hover .tcpPort with hbefore | htext
  · exact absurd hbefore (by decide)
  · obtain ⟨text, hgiven, hport⟩ := htext
    obtain rfl := Option.some.inj hgiven
    have hvalue := (denotes_iff.mp hport.2).2.2
    exact absurd hvalue (by decide)

end ConnectRequest

end NetworkControl
