/-!
The order of texts by their bytes.

UTF-8 gives a greater character bytes that come later in a dictionary, whatever follows them, so the
order of texts by characters is the order of their bytes (`bytesLt_toUTF8`).
-/

namespace SchemaTypes.Text

/-- One sequence of bytes comes before another, as in a dictionary. -/
def BytesLt (xs ys : List UInt8) : Prop :=
  List.Lex (fun a b => a.toNat < b.toNat) xs ys

theorem bytesLt_cons_iff {a b : UInt8} {xs ys : List UInt8} :
    BytesLt (a :: xs) (b :: ys) ↔ a.toNat < b.toNat ∨ a.toNat = b.toNat ∧ BytesLt xs ys := by
  unfold BytesLt
  rw [List.cons_lex_cons_iff, UInt8.toNat_inj]

theorem BytesLt.append_left {xs ys : List UInt8} (h : BytesLt xs ys) (bytes : List UInt8) :
    BytesLt (bytes ++ xs) (bytes ++ ys) := by
  induction bytes with
  | nil => exact h
  | cons a bytes ih => exact .cons ih

/-- The bytes of a smaller character decide, whatever follows those of either. -/
theorem bytesLt_utf8EncodeChar {c d : Char} (h : c < d) (xs ys : List UInt8) :
    BytesLt (String.utf8EncodeChar c ++ xs) (String.utf8EncodeChar d ++ ys) := by
  have less : c.val.toNat < d.val.toNat := h
  have inRange : d.val.toNat < 0x110000 := by
    have := d.valid
    unfold UInt32.isValidChar Nat.isValidChar at this
    omega
  unfold String.utf8EncodeChar
  generalize c.val.toNat = v at less
  generalize d.val.toNat = w at less inRange
  have toNat_ofNat {n : Nat} (small : n < 256) : (UInt8.ofNat n).toNat = n :=
    UInt8.toNat_ofNat_of_lt' small
  have square (n : Nat) : n / 4096 = n / 64 / 64 := (Nat.div_div_eq_div_mul n 64 64).symm
  have cube (n : Nat) : n / 262144 = n / 64 / 64 / 64 := by
    rw [Nat.div_div_eq_div_mul, Nat.div_div_eq_div_mul]
  -- There is a case for each two numbers of bytes that the characters may take.
  dsimp only
  repeat' split
  all_goals
    simp (disch := omega) only [List.cons_append, List.nil_append, bytesLt_cons_iff,
      toNat_ofNat, square, cube]
    omega

theorem toList_toUTF8 (s : String) :
    s.toUTF8.data.toList = s.toList.flatMap String.utf8EncodeChar := by
  have encoded : s.toUTF8 = s.toList.utf8Encode := by
    rw [String.toUTF8_eq_toByteArray, ← String.toByteArray_ofList, String.ofList_toList]
  rw [encoded, List.utf8Encode, List.data_toByteArray]

/-- A text that comes before another by its characters does so by its bytes. -/
theorem bytesLt_toUTF8 {s t : String} (h : s < t) :
    BytesLt s.toUTF8.data.toList t.toUTF8.data.toList := by
  rw [toList_toUTF8, toList_toUTF8]
  have less : List.Lex (· < ·) s.toList t.toList := String.lt_iff.mp h
  generalize s.toList = cs at less
  generalize t.toList = ds at less
  induction less with
  | @nil d rest =>
    obtain ⟨b, bytes, encoded⟩ := List.exists_cons_of_ne_nil (String.utf8EncodeChar_ne_nil (c := d))
    rw [List.flatMap_nil, List.flatMap_cons, encoded]
    exact .nil
  | rel lt =>
    rw [List.flatMap_cons, List.flatMap_cons]
    exact bytesLt_utf8EncodeChar lt _ _
  | cons _ ih =>
    rw [List.flatMap_cons, List.flatMap_cons]
    exact ih.append_left _

end SchemaTypes.Text
