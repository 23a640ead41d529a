import PpvpnCore.Lib.Text

/-!
The local proxy's usernames (`localproxy/mod.rs`): `<prefix>-<node id>` pins a
node, the bare prefix is the routed user.
-/

namespace PpvpnCore

open Lib

def prefixLength : Nat := 5

def prefixAlphabet : List Char := "abcdefghijklmnopqrstuvwxyz0123456789".toList

/-- The alphabet is ASCII, so a prefix has as many characters as bytes. -/
def validPrefix (userPrefix : String) : Bool :=
  userPrefix.toList.length = prefixLength && userPrefix.toList.all (prefixAlphabet.contains ·)

theorem validPrefix_iff {userPrefix : String} :
    validPrefix userPrefix = true ↔
      userPrefix.toList.length = prefixLength ∧ ∀ c ∈ userPrefix.toList, c ∈ prefixAlphabet := by
  simp [validPrefix]

end PpvpnCore
