import Mathlib.Data.List.Sort
import PpvpnCore.Lib.Replace
import PpvpnCore.Lib.Text
import PpvpnCore.Service.Protocol

/-!
What a teardown left behind, with the credentials in it replaced
(`engine/cleanup.rs`), and which texts are credentials (`translate/mod.rs`).
-/

namespace PpvpnCore.Redaction

open Lib
open Service (Value)

abbrev Text := List Char

/-! ## Credentials -/

def secretKeys : List String := ["password", "uuid", "short_id"]

/-- A Shadowsocks 2022 password is keys joined by ':'. -/
def keysOf (s : String) : List String := (splitAll ':' s.toList).map String.ofList ++ [s]

mutual

def walk : Value → List String
  | .object fields => walkFields fields
  | .array items => walkItems items
  | _ => []

def walkFields : List (String × Value) → List String
  | [] => []
  | (key, .string s) :: fields => (if key ∈ secretKeys then keysOf s else []) ++ walkFields fields
  | (_, value) :: fields => walk value ++ walkFields fields

def walkItems : List Value → List String
  | [] => []
  | value :: items => walk value ++ walkItems items

end

/-- The credentials a translation carries. `fromStr` is the JSON parser. -/
def secrets (fromStr : String → Option Value) (json : String) : List String :=
  let out := ((fromStr json).map walk).getD []
  ((out.filter fun s => 6 ≤ s.utf8ByteSize).insertionSort (· ≤ ·)).destutter (· ≠ ·)

/-! ## Leftovers -/

inductive LeftoverKind where
  | runtime | task | tun | route | dns | wfp | rule | steps
  deriving DecidableEq, Repr

structure Leftover where
  kind : LeftoverKind
  name : String
  detail : Text
  deriving DecidableEq, Repr

def mask : Text := "<redacted>".toList

section

variable {α : Type} (letter : α → Char) (mask : List α)

/-- Each secret replaced, one after another. -/
def redactedDetail (secrets : List Text) (detail : List α) : List α :=
  secrets.foldl (fun detail secret =>
    if secret <:+: detail.map letter then replace letter secret mask detail else detail) detail

end

/-- `leftovers` with every credential in their detail replaced. -/
def redacted (leftovers : List Leftover) (secrets : List Text) : List Leftover :=
  leftovers.map fun leftover =>
    { leftover with detail := redactedDetail id mask secrets leftover.detail }

/-! ## What becomes of each character -/

/-- The characters with where they stand. -/
def placed (detail : Text) : List (Char × Option Nat) := detail.zipIdx.map fun c => (c.1, some c.2)

/-- The characters of the detail that are left, among those put in. -/
def followed (secrets : List Text) (detail : Text) : List (Char × Option Nat) :=
  redactedDetail Prod.fst (mask.map fun c => (c, none)) secrets (placed detail)

def OccursAt (secret detail : Text) (start : Nat) : Prop := secret <+: detail.drop start

/-- The place is inside an occurrence of the secret. -/
def Covers (secret detail : Text) (start place : Nat) : Prop :=
  OccursAt secret detail start ∧ start ≤ place ∧ place < start + secret.length

theorem length_placed (detail : Text) : (placed detail).length = detail.length := by
  rw [placed, List.length_map, List.length_zipIdx]

/-- What `report` replaces. -/
def credentials (fromStr : String → Option Value) (json : String) : List Text :=
  (secrets fromStr json).map String.toList

end PpvpnCore.Redaction
