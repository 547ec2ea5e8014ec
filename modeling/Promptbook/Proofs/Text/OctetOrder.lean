import Mathlib.Data.List.Lex
import Mathlib.Data.String.Basic
import Promptbook.Text.Utf8

/-! The order of texts and the order of their octets.

Of two characters the one with the smaller code point has the smaller octets, whatever stands
behind either of them (`utf8EncodeChar_append_lt`). So texts are in the order of their
characters exactly if their octets are in order (`encodeUtf8_le_iff`). -/
namespace Promptbook.Text

/-! ### Octets -/

theorem toList_loop (octets : ByteArray) (i : Nat) (done : List UInt8) :
    ByteArray.toList.loop octets i done = done.reverse ++ octets.data.toList.drop i := by
  induction i, done using ByteArray.toList.loop.induct octets with
  | case1 i done hi ih =>
    have hlength : i < octets.data.toList.length := by simpa using hi
    have hget : octets.get! i = octets.data.toList[i] := by
      rw [ByteArray.get!, Array.getElem_toList]
      exact getElem!_pos octets.data i (by simpa using hi)
    rw [ByteArray.toList.loop, if_pos hi, ih, List.drop_eq_getElem_cons hlength, hget]
    simp
  | case2 i done hi =>
    have hlength : octets.data.toList.length ≤ i := by simpa using hi
    rw [ByteArray.toList.loop, if_neg hi, List.drop_eq_nil_of_le hlength, List.append_nil]

/-- The octets of a text are those of its characters. -/
theorem encodeUtf8_eq_flatMap (text : String) :
    encodeUtf8 text = text.toList.flatMap String.utf8EncodeChar := by
  have hbytes : text.toByteArray = (text.toList.flatMap String.utf8EncodeChar).toByteArray := by
    rw [← List.utf8Encode, ← String.toByteArray_ofList, String.ofList_toList]
  rw [encodeUtf8, String.toUTF8_eq_toByteArray, ByteArray.toList, toList_loop, hbytes]
  simp

/-! ### One character -/

/-- The last `k` octets of a character, which hold six bits each. -/
def tailOctets (n : Nat) : Nat → List UInt8
  | 0 => []
  | k + 1 => UInt8.ofNat (n / 64 ^ k % 64 + 0x80) :: tailOctets n k

/-- How many octets a character has behind the first. -/
def tailLength (n : Nat) : Nat :=
  if n ≤ 0x7F then 0 else if n ≤ 0x7FF then 1 else if n ≤ 0xFFFF then 2 else 3

/-- The first octet, which tells how many there are and holds the highest bits. -/
def firstOctet (n : Nat) : Nat :=
  n / 64 ^ tailLength n +
    if n ≤ 0x7F then 0 else if n ≤ 0x7FF then 0xC0 else if n ≤ 0xFFFF then 0xE0 else 0xF0

theorem utf8EncodeChar_eq (c : Char) :
    String.utf8EncodeChar c =
      UInt8.ofNat (firstOctet c.toNat) :: tailOctets c.toNat (tailLength c.toNat) := by
  have hc : c.val.toNat < 0x110000 := by
    rcases c.valid with h | h <;> omega
  rw [String.utf8EncodeChar.eq_1, Char.toNat]
  generalize c.val.toNat = n at hc
  simp only [firstOctet, tailLength]
  split_ifs
  · simp [tailOctets]
  · rw [Nat.mod_eq_of_lt (by omega)]
    simp [tailOctets]
  · rw [Nat.mod_eq_of_lt (a := n / 4096) (by omega)]
    simp [tailOctets]
  · rw [Nat.mod_eq_of_lt (a := n / 262144) (by omega)]
    simp [tailOctets]

theorem cons_lt_cons_of_nat {x y : Nat} (hy : y < 256) {a b : List UInt8}
    (h : x < y ∨ x = y ∧ a < b) : UInt8.ofNat x :: a < UInt8.ofNat y :: b := by
  rw [List.cons_lt_cons_iff]
  rcases h with hlt | ⟨rfl, hab⟩
  · left
    rw [UInt8.lt_iff_toNat_lt, UInt8.toNat_ofNat', UInt8.toNat_ofNat']
    omega
  · exact .inr ⟨rfl, hab⟩

/-- Where the higher bits are the same, the lower ones decide. -/
theorem tailOctets_append_lt {m n : Nat} (h : m < n) {k : Nat} (hk : m / 64 ^ k = n / 64 ^ k)
    (a b : List UInt8) : tailOctets m k ++ a < tailOctets n k ++ b := by
  induction k with
  | zero => simp only [Nat.pow_zero, Nat.div_one] at hk; omega
  | succ k ih =>
    have hle : m / 64 ^ k ≤ n / 64 ^ k := Nat.div_le_div_right (Nat.le_of_lt h)
    rw [Nat.pow_succ, ← Nat.div_div_eq_div_mul, ← Nat.div_div_eq_div_mul] at hk
    apply cons_lt_cons_of_nat (by omega)
    by_cases hsame : m / 64 ^ k = n / 64 ^ k
    · exact .inr ⟨by rw [hsame], ih hsame⟩
    · exact .inl (by omega)

theorem firstOctet_lt_of_tailLength {m n : Nat} (hn : n < 0x110000)
    (h : tailLength m < tailLength n) : firstOctet m < firstOctet n := by
  simp only [firstOctet, tailLength] at h ⊢
  split_ifs at h ⊢ <;> omega

theorem tailLength_le {m n : Nat} (h : m < n) : tailLength m ≤ tailLength n := by
  simp only [tailLength]
  split_ifs <;> omega

/-- Characters of one length have first octets in the order of their highest bits. -/
theorem firstOctet_of_tailLength {m n : Nat} (h : tailLength m = tailLength n) :
    (firstOctet m < firstOctet n ↔ m / 64 ^ tailLength n < n / 64 ^ tailLength n) ∧
      (firstOctet m = firstOctet n ↔ m / 64 ^ tailLength n = n / 64 ^ tailLength n) := by
  simp only [firstOctet, tailLength] at h ⊢
  split_ifs at h ⊢ <;> omega

theorem firstOctet_lt {n : Nat} (h : n < 0x110000) : firstOctet n < 256 := by
  simp only [firstOctet, tailLength]
  split_ifs <;> omega

/-- **The smaller character has the smaller octets**, whatever stands behind them. -/
theorem utf8EncodeChar_append_lt {c d : Char} (h : c < d) (a b : List UInt8) :
    String.utf8EncodeChar c ++ a < String.utf8EncodeChar d ++ b := by
  have hlt : c.toNat < d.toNat := h
  have hd : d.toNat < 0x110000 := by
    have hvalid := d.valid
    rw [Char.toNat]
    rcases hvalid with h | h <;> omega
  rw [utf8EncodeChar_eq, utf8EncodeChar_eq]
  apply cons_lt_cons_of_nat (firstOctet_lt hd)
  rcases Nat.lt_or_eq_of_le (tailLength_le hlt) with hshorter | hsame
  · exact .inl (firstOctet_lt_of_tailLength hd hshorter)
  · obtain ⟨hless, hequal⟩ := firstOctet_of_tailLength hsame
    have hle : c.toNat / 64 ^ tailLength d.toNat ≤ d.toNat / 64 ^ tailLength d.toNat :=
      Nat.div_le_div_right (Nat.le_of_lt hlt)
    rw [hless, hequal, hsame]
    rcases Nat.lt_or_eq_of_le hle with hhigh | hhigh
    · exact .inl hhigh
    · exact .inr ⟨hhigh, tailOctets_append_lt hlt hhigh a b⟩

/-! ### Texts -/

theorem flatMap_utf8EncodeChar_lt {a b : List Char} (h : a < b) :
    a.flatMap String.utf8EncodeChar < b.flatMap String.utf8EncodeChar := by
  induction a generalizing b with
  | nil =>
    cases b with
    | nil => exact absurd h (List.lt_irrefl [])
    | cons d b =>
      rw [List.flatMap_cons, utf8EncodeChar_eq]
      exact List.nil_lt_cons _ _
  | cons c a ih =>
    cases b with
    | nil => exact absurd h (List.not_lt_nil _)
    | cons d b =>
      rw [List.flatMap_cons, List.flatMap_cons]
      rcases List.cons_lt_cons_iff.mp h with hlt | ⟨rfl, hrest⟩
      · exact utf8EncodeChar_append_lt hlt _ _
      · exact List.append_left_lt (ih hrest)

/-- **Texts are in order if and only if their octets are.** -/
theorem encodeUtf8_le_iff {a b : String} : encodeUtf8 a ≤ encodeUtf8 b ↔ a ≤ b := by
  have hlt {a b : String} (h : a < b) : encodeUtf8 a < encodeUtf8 b := by
    rw [encodeUtf8_eq_flatMap, encodeUtf8_eq_flatMap]
    exact flatMap_utf8EncodeChar_lt h
  constructor
  · intro h hba
    exact h (hlt hba)
  · intro h
    by_cases hab : a = b
    · rw [hab]
      exact List.le_refl _
    · have hab : a < b := by
        rcases lt_or_gt_of_ne hab with hab | hba
        · exact hab
        · exact absurd hba h
      exact List.le_of_lt (hlt hab)

end Promptbook.Text
