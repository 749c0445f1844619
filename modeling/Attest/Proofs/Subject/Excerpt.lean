import Attest.Proofs.Text.Bytewise
import Attest.Subject.Body

/-!
What messages quote of bytes.

A message quotes bytes up to its limit and then says how many it left out (`preview_eq`). The checks
on a body that quote bytes do so on both sides (`BodyCheck.verdict_of_not_holds`).
-/

namespace Attest

/-- What a message says of bytes that it left out. -/
def leftOut : Nat → String
  | 0 => ""
  | more + 1 => s!"... ({more + 1} more bytes)"

/-- The first `limit` bytes in quotes, and how many there are after them. -/
def excerpt (limit : Nat) (bytes : List UInt8) : String :=
  Text.quote (Text.Utf8.decodeLossy (bytes.take limit)) ++ leftOut (bytes.length - limit)

theorem preview_eq (bytes : List UInt8) (limit : Nat) :
    preview bytes limit = excerpt limit bytes := by
  unfold preview excerpt
  split
  next h => rw [List.take_of_length_le h, Nat.sub_eq_zero_of_le h, leftOut, String.append_empty]
  next h =>
    obtain ⟨more, hmore⟩ : ∃ more, bytes.length - limit = more + 1 :=
      Nat.exists_eq_add_one.mpr (by omega)
    simp only [hmore, leftOut]

theorem require_of_ne_none {ok : Bool} {f : Failure} (h : require ok f ≠ none) :
    require ok f = some f := by
  cases ok with
  | true => exact absurd rfl h
  | false => rfl

namespace BodyCheck

/-- What the check says of the bytes. -/
def Holds (bytes : List UInt8) : BodyCheck → Prop
  | .empty => bytes = []
  | .notEmpty => bytes ≠ []
  | .equal expected => bytes = expected
  | .length expected => bytes.length = expected
  | .contains needle => needle <:+: bytes

/-- The message with which the check fails, if it is one that quotes bytes. -/
def complaint? (limit : Nat) (bytes : List UInt8) : BodyCheck → Option String
  | .empty => some ("expected empty body, but got:\n  " ++ excerpt limit bytes)
  | .equal expected =>
    some ("expected body " ++ "equal to" ++ ":\n  " ++ excerpt limit expected
      ++ "\n\nbut got:\n  " ++ excerpt limit bytes)
  | .contains needle =>
    some ("expected body " ++ "containing" ++ ":\n  " ++ excerpt limit needle
      ++ "\n\nbut got:\n  " ++ excerpt limit bytes)
  | .notEmpty | .length _ => none

variable {k : BodyCheck} {bytes : List UInt8} {limit : Nat} {message : String}

theorem verdict_eq_none_iff : k.verdict bytes limit = none ↔ k.Holds bytes := by
  cases k <;> simp [verdict, require, Holds, Text.containsList_iff_infix]

theorem contrast_eq (words : String) (limit : Nat) (expected actual : List UInt8) :
    contrast words limit expected actual =
      "expected body " ++ words ++ ":\n  " ++ excerpt limit expected ++ "\n\nbut got:\n  "
        ++ excerpt limit actual := by
  unfold contrast
  simp only [preview_eq]

/-- A check that quotes bytes and does not hold fails with its message. -/
theorem verdict_of_not_holds (hk : k.complaint? limit bytes = some message)
    (h : ¬ k.Holds bytes) : k.verdict bytes limit = some (.value message) := by
  have hfails : k.verdict bytes limit ≠ none := mt verdict_eq_none_iff.mp h
  cases k with
  | notEmpty | length => cases hk
  | empty =>
    obtain rfl := Option.some.inj hk
    rw [verdict, preview_eq] at hfails ⊢
    exact require_of_ne_none hfails
  | equal expected | contains needle =>
    obtain rfl := Option.some.inj hk
    rw [verdict, contrast_eq] at hfails ⊢
    exact require_of_ne_none hfails

end BodyCheck

end Attest
