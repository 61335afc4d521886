import Budlum.Core.Primitives
import Budlum.Lib.Encoding

/-!
# What the byte encodings determine

Words, digests and texts can be read back from the bytes that hash preimages are made of.
-/

namespace Budlum

open Encoding

/-! ### Numbers -/

@[simp] theorem length_leBytes (w n : Nat) : (leBytes w n).length = w := by
  induction w generalizing n with
  | zero => rfl
  | succ w ih => simp [leBytes, ih]

/-- Numbers that fit are determined by their bytes. -/
theorem leBytes_inj {w n n' : Nat} (hn : n < 256 ^ w) (hn' : n' < 256 ^ w)
    (h : leBytes w n = leBytes w n') : n = n' := by
  induction w generalizing n n' with
  | zero => simp only [pow_zero, Nat.lt_one_iff] at hn hn'; omega
  | succ w ih =>
    obtain ⟨hlow, hhigh⟩ := List.cons.inj h
    have hlow : n % 256 = n' % 256 := by
      have := congrArg UInt8.toNat hlow
      simp only [UInt8.toNat_ofNat'] at this
      omega
    have hhigh : n / 256 = n' / 256 := by
      rw [pow_succ] at hn hn'
      exact ih (Nat.div_lt_of_lt_mul (by omega)) (Nat.div_lt_of_lt_mul (by omega)) hhigh
    omega

theorem leBytes_counts (w : Nat) : Counts (256 ^ w) (leBytes w) where
  length_eq n n' := by simp
  inj _ _ hn hn' h := leBytes_inj hn hn' h

/-- The number with these bytes, most significant first. -/
def bigEndian (l : Bytes) : Nat := l.foldl (fun n b => 256 * n + b.toNat) 0

theorem bigEndian_concat (l : Bytes) (b : UInt8) :
    bigEndian (l ++ [b]) = 256 * bigEndian l + b.toNat := by
  simp [bigEndian]

theorem bigEndian_lt (l : Bytes) : bigEndian l < 256 ^ l.length := by
  induction l using List.reverseRecOn with
  | nil => exact Nat.one_pos
  | append_singleton l b ih =>
    have := b.toNat_lt
    rw [bigEndian_concat, List.length_append, List.length_singleton, pow_succ]
    omega

theorem reverse_leBytes_bigEndian {l : Bytes} {w : Nat} (h : l.length ≤ w) :
    (leBytes w (bigEndian l)).reverse = List.replicate (w - l.length) 0 ++ l := by
  induction w generalizing l with
  | zero => rw [List.length_eq_zero_iff.1 (Nat.le_zero.1 h)]; rfl
  | succ w ih =>
    rw [leBytes, List.reverse_cons]
    obtain rfl | ⟨l, b, rfl⟩ := l.eq_nil_or_concat
    · exact (congrArg (· ++ [0]) (ih (l := []) (Nat.zero_le w))).trans
        (by simp [List.replicate_succ'])
    · have hb := b.toNat_lt
      rw [List.concat_eq_append] at *
      rw [bigEndian_concat, show (256 * bigEndian l + b.toNat) % 256 = b.toNat by omega,
        show (256 * bigEndian l + b.toNat) / 256 = bigEndian l by omega, ih (by simp at h; omega)]
      simp

end Budlum

namespace Encoding

open Budlum

variable {N : Nat}

theorem Unique.u64 : Unique N u64Bytes :=
  .ofLength 8 (fun n => length_leBytes 8 n.toNat) fun n n' h =>
    UInt64.toNat_inj.1 (leBytes_inj n.toNat_lt n'.toNat_lt h)

theorem Unique.u32 : Unique N u32Bytes :=
  .ofLength 4 (fun n => length_leBytes 4 n.toNat) fun n n' h =>
    UInt32.toNat_inj.1 (leBytes_inj n.toNat_lt n'.toNat_lt h)

/-- Numbers of `w` bytes, written with the most significant byte first. -/
theorem reverse_leBytes_unique {w M : Nat} (hM : M = 256 ^ w) :
    Unique N fun n : Fin M => (leBytes w n.val).reverse :=
  .ofLength w (fun n => by simp) fun n n' heq =>
    Fin.ext (leBytes_inj (hM ▸ n.isLt) (hM ▸ n'.isLt) (List.reverse_injective heq))

theorem Unique.hash : Unique N hashBytes := reverse_leBytes_unique (by decide)

theorem Unique.signature : Unique N signatureBytes :=
  reverse_leBytes_unique (by rw [show 256 = 2 ^ 8 from rfl, ← pow_mul])

theorem Unique.byte : Unique N fun b : UInt8 => [b] :=
  .ofLength 1 (fun _ => rfl) fun _ _ h => (List.cons.inj h).1

theorem Unique.bool : Unique N boolByte :=
  .ofLength 1 (fun _ => rfl) fun b b' h => by cases b <;> cases b' <;> simp_all [boolByte]

end Encoding

namespace Budlum

open Encoding

theorem hashBytes_injective : Function.Injective hashBytes := fun _ _ h =>
  Unique.hash.eq (N := 33) (by simp [hashBytes]) h

/-! ### Texts -/

theorem toList_loop (b : ByteArray) (i : Nat) (acc : Bytes) :
    ByteArray.toList.loop b i acc = acc.reverse ++ b.data.toList.drop i := by
  fun_induction ByteArray.toList.loop b i acc with
  | case1 i acc h ih =>
    have hi : i < b.data.toList.length := h
    have hbyte : b.get! i = b.data.toList[i] := getElem!_pos b.data i hi
    rw [ih, List.drop_eq_getElem_cons hi, List.reverse_cons, List.append_assoc, hbyte]
    rfl
  | case2 i acc h =>
    have hend : b.data.toList.length ≤ i := Nat.le_of_not_lt h
    rw [List.drop_eq_nil_of_le hend, List.append_nil]

theorem textBytes_eq (s : String) : textBytes s = s.toUTF8.data.toList := by
  simp only [textBytes, ByteArray.toList, toList_loop, List.reverse_nil, List.nil_append,
    List.drop_zero]

theorem textBytes_injective : Function.Injective textBytes := fun s t h => by
  rw [textBytes_eq, textBytes_eq] at h
  exact String.toByteArray_inj.1 (ByteArray.ext (Array.toList_inj.1 h))

end Budlum
