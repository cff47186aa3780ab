import Mathlib.Data.String.Basic
import Montage.Text.Utf8

/-! Texts are read back from their bytes. -/
namespace Montage.Text

variable {b first lo hi : UInt8} {rest tail : Bytes} {c : Char}

/-! ### Bytes of a text -/

theorem toList_loop_eq (bytes : ByteArray) (i : Nat) (done : Bytes) :
    ByteArray.toList.loop bytes i done = done.reverse ++ bytes.data.toList.drop i := by
  fun_induction ByteArray.toList.loop bytes i done with
  | case1 i done h ih =>
    have hi : i < bytes.data.toList.length := by simpa using h
    have hget : bytes.get! i = bytes.data.toList[i] := by
      simp [ByteArray.get!, h]
    rw [ih, List.drop_eq_getElem_cons hi, hget, List.reverse_cons, List.append_assoc,
      List.singleton_append]
  | case2 i done h =>
    have hi : bytes.data.toList.length ≤ i := by simpa using h
    rw [List.drop_eq_nil_of_le hi, List.append_nil]

theorem encode_eq_flatMap (s : String) : encode s = s.toList.flatMap String.utf8EncodeChar := by
  have hbytes : s.toUTF8 = (s.toList.flatMap String.utf8EncodeChar).toByteArray := by
    rw [String.toUTF8_eq_toByteArray, ← List.utf8Encode, ← String.toByteArray_ofList,
      String.ofList_toList]
  rw [encode, hbytes, ByteArray.toList, toList_loop_eq, List.toList_data_toByteArray,
    List.drop_zero]
  rfl

/-! ### One character -/

theorem toNat_ofNat {n : Nat} (h : n < 256) : (UInt8.ofNat n).toNat = n :=
  UInt8.toNat_ofNat_of_lt' h

theorem ofNat_le_ofNat {m n : Nat} (h : m ≤ n) (hn : n < 256) : UInt8.ofNat m ≤ UInt8.ofNat n := by
  rw [UInt8.le_iff_toNat_le, toNat_ofNat (h.trans_lt hn), toNat_ofNat hn]
  exact h

/-- A byte after the first, with the last six bits of a number. -/
def tailByte (k : Nat) : UInt8 :=
  UInt8.ofNat (k % 64 + 0x80)

theorem toNat_tailByte (k : Nat) : (tailByte k).toNat = k % 64 + 0x80 :=
  toNat_ofNat (by omega)

theorem isContinuation_tailByte (k : Nat) : isContinuation (tailByte k) = true := by
  have hall : ∀ k < 64, isContinuation (UInt8.ofNat (k + 0x80)) = true := by decide
  exact hall (k % 64) (Nat.mod_lt k (by decide))

theorem foldl_tailByte (ks : List Nat) (lead : Nat) :
    (ks.map tailByte).foldl (fun n b => n * 64 + b.toNat % 64) lead =
      ks.foldl (fun n k => n * 64 + k % 64) lead := by
  rw [List.foldl_map]
  congr 1
  funext n k
  rw [toNat_tailByte]
  omega

theorem continued_append (hlo : lo ≤ b) (hhi : b ≤ hi) (htail : ∀ x ∈ tail, isContinuation x = true)
    (rest : Bytes) : continued (tail.length + 1) lo hi (b :: (tail ++ rest)) = b :: tail := by
  have hbounds : (lo ≤ b && b ≤ hi) = true := by
    rw [decide_eq_true hlo, decide_eq_true hhi]
    rfl
  rw [continued, if_neg (Nat.succ_ne_zero _), if_pos hbounds, Nat.add_sub_cancel,
    List.takeWhile_append_of_pos htail, List.take_left]

/-- A character is put together from the bits of its bytes. -/
theorem decodeFirst_append (k : Nat) (ks : List Nat) {lo hi : Nat} (hfirst : ¬ first < 0x80)
    (hfollow : follow first = some (ks.length + 1, UInt8.ofNat lo, UInt8.ofNat hi))
    (hlo : lo ≤ k % 64 + 0x80) (hhi : k % 64 + 0x80 ≤ hi) (hbyte : hi < 256) (rest : Bytes) :
    decodeFirst first ((k :: ks).map tailByte ++ rest) =
      (some (Char.ofNat ((k :: ks).foldl (fun n k => n * 64 + k % 64)
        (first.toNat % pow2 (6 - (ks.length + 1))))), ks.length + 1) := by
  have htail : ∀ x ∈ ks.map tailByte, isContinuation x = true :=
    List.forall_mem_map.mpr fun k _ => isContinuation_tailByte k
  have hlow : UInt8.ofNat lo ≤ tailByte k := ofNat_le_ofNat hlo (by omega)
  have hhigh : tailByte k ≤ UInt8.ofNat hi := ofNat_le_ofNat hhi hbyte
  have hcontinued := continued_append hlow hhigh htail rest
  rw [List.length_map, ← List.cons_append, ← List.map_cons] at hcontinued
  rw [decodeFirst, if_neg hfirst, hfollow]
  simp only [hcontinued, List.length_map, List.length_cons, if_true, foldl_tailByte]

theorem follow_two : ∀ k < 32, 2 ≤ k → ¬ UInt8.ofNat (k + 0xC0) < 0x80 ∧
    follow (UInt8.ofNat (k + 0xC0)) = some (1, UInt8.ofNat 0x80, UInt8.ofNat 0xBF) := by
  decide

/-- The second of three bytes is bounded below after the first of the leading bytes, and above
after the one that would lead to surrogates. -/
theorem follow_three : ∀ k < 16, ¬ UInt8.ofNat (k + 0xE0) < 0x80 ∧
    follow (UInt8.ofNat (k + 0xE0)) =
      some (2, UInt8.ofNat (if k = 0 then 0xA0 else 0x80),
        UInt8.ofNat (if k = 13 then 0x9F else 0xBF)) := by
  decide

theorem follow_four : ∀ k < 5, ¬ UInt8.ofNat (k + 0xF0) < 0x80 ∧
    follow (UInt8.ofNat (k + 0xF0)) =
      some (3, UInt8.ofNat (if k = 0 then 0x90 else 0x80),
        UInt8.ofNat (if k = 4 then 0x8F else 0xBF)) := by
  decide

/-- A character is read from its bytes, and no more than these. -/
theorem decodeFirst_utf8EncodeChar (c : Char) (rest : Bytes) : ∃ first more,
    String.utf8EncodeChar c = first :: more ∧
      decodeFirst first (more ++ rest) = (some c, more.length) := by
  have hvalid : c.val.toNat < 0xD800 ∨ 0xDFFF < c.val.toNat ∧ c.val.toNat < 0x110000 := c.valid
  have hc : Char.ofNat c.val.toNat = c := Char.ofNat_toNat c
  unfold String.utf8EncodeChar
  dsimp only
  generalize c.val.toNat = n at hvalid hc
  rw [← hc]
  split_ifs with hone htwo hthree
  · have hn : (UInt8.ofNat n).toNat = n := toNat_ofNat (hone.trans_lt (by decide))
    have hless : UInt8.ofNat n < 0x80 := by
      rw [UInt8.lt_iff_toNat_lt, hn]
      exact Nat.lt_succ_of_le hone
    refine ⟨_, [], rfl, ?_⟩
    rw [decodeFirst, if_pos hless, hn]
    rfl
  · obtain ⟨hfirst, hfollow⟩ := follow_two (n / 64 % 32) (by omega) (by omega)
    refine ⟨_, [n].map tailByte, rfl, ?_⟩
    rw [decodeFirst_append n [] hfirst hfollow (by omega) (by omega) (by decide),
      toNat_ofNat (by omega)]
    have hn : (n / 64 % 32 + 0xC0) % 32 * 64 + n % 64 = n := by omega
    exact congrArg (fun n => (some (Char.ofNat n), 1)) hn
  · obtain ⟨hfirst, hfollow⟩ := follow_three (n / 4096 % 16) (by omega)
    refine ⟨_, [n / 64, n].map tailByte, rfl, ?_⟩
    rw [decodeFirst_append (n / 64) [n] hfirst hfollow (by split_ifs <;> omega)
      (by split_ifs <;> omega) (by split_ifs <;> decide), toNat_ofNat (by omega)]
    have hn : ((n / 4096 % 16 + 0xE0) % 16 * 64 + n / 64 % 64) * 64 + n % 64 = n := by omega
    exact congrArg (fun n => (some (Char.ofNat n), 2)) hn
  · obtain ⟨hfirst, hfollow⟩ := follow_four (n / 262144 % 8) (by omega)
    refine ⟨_, [n / 4096, n / 64, n].map tailByte, rfl, ?_⟩
    rw [decodeFirst_append (n / 4096) [n / 64, n] hfirst hfollow (by split_ifs <;> omega)
      (by split_ifs <;> omega) (by split_ifs <;> decide), toNat_ofNat (by omega)]
    have hn : (((n / 262144 % 8 + 0xF0) % 8 * 64 + n / 4096 % 64) * 64 + n / 64 % 64) * 64 +
        n % 64 = n := by omega
    exact congrArg (fun n => (some (Char.ofNat n), 3)) hn

/-! ### Whole texts -/

theorem decodeRuns_flatMap (cs : List Char) :
    decodeRuns (cs.flatMap String.utf8EncodeChar) = cs.map some := by
  induction cs with
  | nil => rw [List.flatMap_nil, decodeRuns, List.map_nil]
  | cons c cs ih =>
    obtain ⟨first, more, hbytes, hfirst⟩ :=
      decodeFirst_utf8EncodeChar c (cs.flatMap String.utf8EncodeChar)
    rw [List.flatMap_cons, hbytes, List.cons_append, decodeRuns, hfirst]
    dsimp only
    rw [List.drop_left, ih, List.map_cons]

/-- A text is read back from its bytes. -/
theorem decode?_encode (s : String) : decode? (encode s) = some s := by
  have hall : (s.toList.map some).mapM id = some s.toList := by
    rw [List.mapM_map]
    exact (List.mapM_pure (f := id)).trans (congrArg some s.toList.map_id)
  rw [decode?, encode_eq_flatMap, decodeRuns_flatMap, hall, Option.map_some, String.ofList_toList]

end Montage.Text
