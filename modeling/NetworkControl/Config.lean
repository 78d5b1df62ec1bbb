import NetworkControl.GameClient
import NetworkControl.Numerals
import Mathlib.Data.List.DropRight
import Mathlib.Logic.Function.Basic

/-!
# Config

`Common/Config.cpp`: the `key=value` files of the server and the client.
A file is the characters its stream delivers, `none` where it cannot be
opened.

A value that is no port keeps the port there was. `stoi` reads the head of
a value, so what sets the port is the number the value begins with
(`applyPort_of_text`).
-/

namespace NetworkControl

open Numerals

structure ServerConfig where
  tcpPort : UInt16 := 5000
  udpPort : UInt16 := 6500
deriving DecidableEq, Repr

namespace Config

/-! ## Reading the file -/

def isBlank (c : Char) : Bool := c = ' ' || c = '\t' || c = '\r' || c = '\n'

def trim (text : List Char) : List Char :=
  (text.dropWhile isBlank).rdropWhile isBlank

abbrev KeyValues := List Char → Option (List Char)

/-- What one line of the file adds. -/
def readLine (values : KeyValues) (line : List Char) : KeyValues :=
  let trimmed := trim line
  if trimmed = [] ∨ trimmed.head? = some '#' ∨ trimmed.head? = some ';' then
    values
  else
    match trimmed.findIdx? (· = '=') with
    | none => values
    | some separatorPos =>
        let key := trim (trimmed.take separatorPos)
        let value := trim (trimmed.drop (separatorPos + 1))
        if key = [] then values else Function.update values key (some value)

/-- The lines `std::getline` gives: after the last newline there is one
only when it has characters. -/
def getLines (contents : List Char) : List (List Char) :=
  let lines := contents.splitOn '\n'
  if lines.getLast? = some [] then lines.dropLast else lines

def tryReadKeyValues (file : Option (List Char)) : Option KeyValues :=
  file.map fun contents => (getLines contents).foldl readLine fun _ => none

/-! ## The fields -/

/-- `static_cast<uint16_t>` of an `int`. -/
def toUInt16 (i : Int32) : UInt16 := i.toUInt32.toUInt16

/-- The exceptions of `stoi` are caught, and the port stays. -/
def applyPort (values : KeyValues) (key : String) (port : UInt16) : UInt16 :=
  match values key.toList with
  | none => port
  | some text =>
      match stoi text with
      | none => port
      | some parsed =>
          if 0 < parsed.toInt ∧ parsed.toInt ≤ 65535 then toUInt16 parsed
          else port

def loadServerConfig (file : Option (List Char)) (config : ServerConfig) :
    Bool × ServerConfig :=
  match tryReadKeyValues file with
  | none => (false, config)
  | some values =>
      (true,
        { tcpPort := applyPort values "TcpPort" config.tcpPort
          udpPort := applyPort values "UdpPort" config.udpPort })

def loadClientConfig (file : Option (List Char)) (config : ClientConfig) :
    Bool × ClientConfig :=
  match tryReadKeyValues file with
  | none => (false, config)
  | some values =>
      let host :=
        match values "Host".toList with
        | none => config.host
        | some value => if value = [] then config.host else String.ofList value
      (true,
        { host
          tcpPort := applyPort values "TcpPort" config.tcpPort
          udpPort := applyPort values "UdpPort" config.udpPort
          serverUdpPort :=
            applyPort values "ServerUdpPort" config.serverUdpPort })

/-! What a port is read to. -/

theorem toUInt16_toNat (i : Int32) :
    ((toUInt16 i).toNat : ℤ) = i.toInt % 65536 := by
  have hint : i.toInt = i.toBitVec.toInt := rfl
  have hnat : (toUInt16 i).toNat = i.toBitVec.toNat % 65536 := rfl
  rw [hint, hnat, BitVec.toInt_eq_toNat_cond]
  have := i.toBitVec.isLt
  split <;> omega

/-- In range the cast changes nothing. -/
theorem toUInt16_toNat_of_inRange {i : Int32} (h : 0 < i.toInt)
    (h' : i.toInt ≤ 65535) : ((toUInt16 i).toNat : ℤ) = i.toInt := by
  rw [toUInt16_toNat]
  omega

theorem applyPort_of_none {values : KeyValues} {key : String}
    (h : values key.toList = none) (port : UInt16) :
    applyPort values key port = port := by
  unfold applyPort
  rw [h]

theorem applyPort_of_text {values : KeyValues} {key : String}
    {text : List Char} (h : values key.toList = some text) (port : UInt16) :
    applyPort values key port
      = if 0 < (scan text).value ∧ (scan text).value ≤ 65535 then
          UInt16.ofNat (scan text).value.toNat
        else port := by
  unfold applyPort
  rw [h]
  dsimp only
  cases hstoi : stoi text with
  | none =>
      rw [if_neg]
      rintro ⟨hpos, hle⟩
      have hdigits : (scan text).digits ≠ [] := by
        intro hnil
        rw [Scan.value_of_nil hnil] at hpos
        exact lt_irrefl 0 hpos
      have hfits : toInt32? (scan text).value
          = some (Int32.ofInt (scan text).value) := by
        unfold toInt32?
        exact if_pos ⟨by omega, by omega⟩
      rw [stoi_eq_some_iff.mpr ⟨hdigits, toInt32?_eq_some_iff.mp hfits⟩]
        at hstoi
      cases hstoi
  | some parsed =>
      rw [(stoi_eq_some_iff.mp hstoi).2]
      dsimp only
      by_cases hrange : 0 < parsed.toInt ∧ parsed.toInt ≤ 65535
      · rw [if_pos hrange, if_pos hrange]
        have hcast := toUInt16_toNat_of_inRange hrange.1 hrange.2
        apply UInt16.toNat_inj.mp
        rw [UInt16.toNat_ofNat_of_lt' (show _ < 65536 by omega)]
        omega
      · rw [if_neg hrange, if_neg hrange]

end Config

end NetworkControl
