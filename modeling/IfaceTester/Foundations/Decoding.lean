import Mathlib.Data.List.Basic

/-!
# Decoding a list element by element

A decoder that is told the position of each element, and that fails as a whole
when one element fails. It succeeds exactly when every element does
(`decodeFrom_eq_some_iff`), so an encoder of single elements gives an encoder of
lists (`decodeFrom_map`).
-/

set_option autoImplicit false

namespace IfaceTester.Decoding

variable {α β : Type*}

/-- Decode the elements in order. The position of the first one is given. -/
def decodeFrom (decode : ℕ → α → Option β) : ℕ → List α → Option (List β)
  | _, [] => some []
  | position, a :: as =>
      (decode position a).bind fun b => (decodeFrom decode (position + 1) as).map (b :: ·)

variable {decode : ℕ → α → Option β} {position : ℕ} {as : List α} {bs : List β}

theorem decodeFrom_cons_eq_some {a : α} : decodeFrom decode position (a :: as) = some bs ↔
    ∃ b rest, decode position a = some b ∧ decodeFrom decode (position + 1) as = some rest ∧
      b :: rest = bs := by
  simp [decodeFrom, Option.bind_eq_some_iff, Option.map_eq_some_iff]

/-- **A list is decoded exactly when each element is**, at its own position. -/
theorem decodeFrom_eq_some_iff : decodeFrom decode position as = some bs ↔
    as.length = bs.length ∧ ∀ k (a : α) (b : β), as[k]? = some a → bs[k]? = some b →
      decode (position + k) a = some b := by
  induction as generalizing position bs with
  | nil =>
      constructor
      · rintro ⟨⟩
        exact ⟨rfl, fun k a b member => by simp at member⟩
      · rintro ⟨length, -⟩
        rw [List.eq_nil_of_length_eq_zero length.symm]
        rfl
  | cons a as ih =>
      rw [decodeFrom_cons_eq_some]
      constructor
      · rintro ⟨b, rest, first, others, rfl⟩
        obtain ⟨length, each⟩ := ih.mp others
        refine ⟨congrArg (· + 1) length, fun k a' b' left right => ?_⟩
        cases k with
        | zero =>
            cases left
            cases right
            exact first
        | succ k =>
            have later := each k a' b' (by simpa using left) (by simpa using right)
            rwa [Nat.add_right_comm, Nat.add_assoc] at later
      · rintro ⟨length, each⟩
        cases bs with
        | nil => cases length
        | cons b rest =>
            refine ⟨b, rest, each 0 a b rfl rfl, ih.mpr ⟨Nat.succ.inj length, ?_⟩, rfl⟩
            intro k a' b' left right
            have later := each (k + 1) a' b' (by simpa using left) (by simpa using right)
            rwa [Nat.add_right_comm, Nat.add_assoc]

/-- A list can be decoded exactly when each element can, at its own position. -/
theorem isSome_decodeFrom_iff : (decodeFrom decode position as).isSome = true ↔
    ∀ k (a : α), as[k]? = some a → (decode (position + k) a).isSome = true := by
  induction as generalizing position with
  | nil => simp [decodeFrom]
  | cons a as ih =>
      rw [decodeFrom, Option.isSome_bind, Option.any_eq_true_iff_get]
      constructor
      · rintro ⟨first, rest⟩ k a' member
        rw [Option.isSome_map, ih] at rest
        cases k with
        | zero =>
            cases member
            exact first
        | succ k =>
            have later := rest k a' (by simpa using member)
            rwa [Nat.add_right_comm, Nat.add_assoc] at later
      · intro each
        refine ⟨each 0 a rfl, ?_⟩
        rw [Option.isSome_map, ih]
        intro k a' member
        have later := each (k + 1) a' (by simpa using member)
        rwa [Nat.add_right_comm, Nat.add_assoc]

/-- **Encoded elements decode to the list they came from.** -/
theorem decodeFrom_map {encode : β → α}
    (each : ∀ k (b : β), bs[k]? = some b → decode (position + k) (encode b) = some b) :
    decodeFrom decode position (bs.map encode) = some bs := by
  refine decodeFrom_eq_some_iff.mpr ⟨List.length_map encode, fun k a b left right => ?_⟩
  rw [List.getElem?_map, right] at left
  cases left
  exact each k b right

/-- What every element gets from its own decoding. -/
theorem forall_of_decodeFrom {P : ℕ → β → Prop} (decoded : decodeFrom decode position as = some bs)
    (each : ∀ k a b, decode k a = some b → P k b) (k : ℕ) (b : β) (member : bs[k]? = some b) :
    P (position + k) b := by
  obtain ⟨length, elements⟩ := decodeFrom_eq_some_iff.mp decoded
  obtain ⟨inside, -⟩ := List.getElem?_eq_some_iff.mp member
  have within : k < as.length := length ▸ inside
  have left : as[k]? = some as[k] := List.getElem?_eq_getElem within
  exact each _ _ _ (elements k _ b left member)

end IfaceTester.Decoding
