import Mathlib.Tactic.SplitIfs
import RouteStubs.Proofs.Text.Utf8

/-!
# Boundaries between pieces

Bytes are divided into pieces from the left, and a faulty piece takes up as many bytes as could
still have become a character. A byte that does not go on with an encoding is never among them, so a
piece begins there, whatever comes before it. The encoding of a character begins with such a byte:
whether the bytes around it are faulty or not, the character is read.
-/

namespace RouteStubs.Text

/-- A byte `b` that may follow the first byte `a` of an encoding goes on with it. -/
lemma isContinuation_of_mayFollow {a b : UInt8} (h : mayFollow a b = true) :
    isContinuation b = true := by
  unfold mayFollow at h
  unfold isContinuation
  split_ifs at h
  all_goals
    simp [UInt8.le_iff_toNat_le, isContinuation] at h ⊢
    omega

section

variable {b : UInt8} (hb : isContinuation b = false)
include hb

/-- A `piece` does not reach beyond the bytes that go on with an encoding: another byte `b`, and
everything behind it, is not looked at. -/
lemma piece_append (a : UInt8) (rest others : List UInt8) :
    piece a (rest ++ b :: others) = piece a rest := by
  have hfollow : mayFollow a b = false := by
    rw [← Bool.not_eq_true]
    intro h
    simp [isContinuation_of_mayFollow h] at hb
  -- At most three bytes behind the first one are looked at.
  rcases rest with _ | ⟨x, _ | ⟨y, _ | ⟨z, rest⟩⟩⟩
  · rcases others with _ | ⟨c, _ | ⟨d, others⟩⟩ <;> simp [piece, hb, hfollow]
  · cases hx : mayFollow a x with
    | false => rcases others with _ | ⟨c, others⟩ <;> simp [piece, hx]
    | true => rcases others with _ | ⟨c, others⟩ <;> simp [piece, hb, hx]
  · cases hx : mayFollow a x with
    | false => simp [piece, hx]
    | true => cases hy : isContinuation y <;> simp [piece, hb, hx, hy]
  · rfl

end

/-- A `piece` has no more bytes than there are. -/
lemma more_piece_le (a : UInt8) (rest : List UInt8) : (piece a rest).more ≤ rest.length := by
  unfold piece
  split_ifs
  · exact Nat.zero_le _
  · split
    · split_ifs <;> simp
    · exact Nat.zero_le _
  · split
    · split_ifs <;> simp
    · split_ifs <;> simp
    · exact Nat.zero_le _
  · split
    · split_ifs <;> simp
    · split_ifs <;> simp
    · split_ifs <;> simp
    · exact Nat.zero_le _
  · exact Nat.zero_le _

/-- What has been `gathered` already stays behind what is gathered. -/
lemma gatherPieces_eq : ∀ (bytes : List UInt8) (gathered : List (Option Char)),
    gatherPieces gathered bytes = gatherPieces [] bytes ++ gathered
  | [], gathered => by simp [gatherPieces]
  | a :: rest, gathered => by
    rw [gatherPieces, gatherPieces, gatherPieces_eq (rest.drop _) (_ :: gathered),
      gatherPieces_eq (rest.drop _) [_], List.append_assoc, List.singleton_append]
termination_by bytes => bytes.length

/-- The `pieces` of some bytes begin with the first one. -/
lemma pieces_cons (a : UInt8) (rest : List UInt8) :
    pieces (a :: rest) = (piece a rest).char? :: pieces (rest.drop (piece a rest).more) := by
  rw [pieces, gatherPieces, gatherPieces_eq, List.reverse_append, List.reverse_singleton,
    List.singleton_append, pieces]

/-- A piece begins at every byte `b` that does not go on with an encoding. The induction follows the
pieces of the bytes in front of it. -/
lemma pieces_append {b : UInt8} (hb : isContinuation b = false) (others : List UInt8) :
    ∀ bytes : List UInt8, pieces (bytes ++ b :: others) = pieces bytes ++ pieces (b :: others)
  | [] => by simp [pieces, gatherPieces]
  | a :: rest => by
    have hdrop : (rest ++ b :: others).drop (piece a rest).more =
        rest.drop (piece a rest).more ++ b :: others :=
      List.drop_append_of_le_length (more_piece_le a rest)
    rw [List.cons_append, pieces_cons, pieces_cons, piece_append hb, hdrop,
      pieces_append hb others (rest.drop (piece a rest).more), List.cons_append]
termination_by bytes => bytes.length

/-- The first byte `a` of a character does not go on with an encoding. -/
lemma exists_utf8EncodeChar_eq (c : Char) :
    ∃ a more, String.utf8EncodeChar c = a :: more ∧ isContinuation a = false := by
  have hfirst {n : Nat} (hn : n < 256) (h : n < 0x80 ∨ 0xbf < n) :
      isContinuation (UInt8.ofNat n) = false := by
    simp only [isContinuation, le_byte hn, byte_le hn]
    simp
    omega
  fun_cases String.utf8EncodeChar c with
  | case1 v h => exact ⟨_, _, rfl, hfirst (by omega) (by omega)⟩
  | case2 v h₁ h₂ => exact ⟨_, _, rfl, hfirst (by omega) (by omega)⟩
  | case3 v h₁ h₂ h₃ => exact ⟨_, _, rfl, hfirst (by omega) (by omega)⟩
  | case4 v h₁ h₂ h₃ => exact ⟨_, _, rfl, hfirst (by omega) (by omega)⟩

/-- The first of the `pieces` of an encoded character `c` and further bytes is the character. -/
lemma pieces_encode_append (c : Char) (others : List UInt8) :
    pieces (encode [c] ++ others) = some c :: pieces others := by
  rw [encode, List.flatMap_singleton, pieces, gatherPieces_utf8EncodeChar, gatherPieces_eq,
    List.reverse_append, List.reverse_singleton, List.singleton_append, pieces]

/-- A character `c` is read by `decodeLossy` wherever it is encoded, whatever bytes are around it.
-/
lemma decodeLossy_append_encode_append (bytes others : List UInt8) (c : Char) :
    decodeLossy (bytes ++ (encode [c] ++ others)) =
      decodeLossy bytes ++ c :: decodeLossy others := by
  obtain ⟨a, more, hencode, ha⟩ := exists_utf8EncodeChar_eq c
  have hfront : encode [c] ++ others = a :: (more ++ others) := by
    rw [encode, List.flatMap_singleton, hencode, List.cons_append]
  have hpieces : pieces (bytes ++ (encode [c] ++ others)) =
      pieces bytes ++ some c :: pieces others := by
    rw [hfront, pieces_append ha, ← hfront, pieces_encode_append]
  rw [decodeLossy, hpieces, List.map_append, List.map_cons]
  rfl

end RouteStubs.Text
