import Mathlib
import Montage.Number.Floating
import Montage.Proofs.Number.Lawful

/-! Floating point obeys the laws of rounded arithmetic. Rounding is monotone on units and leaves a
value of the grid where it is; the laws follow by cases on which operands are finite. -/
namespace Montage

namespace Decimal

theorem roundDiv_mono (tie : Tie) {m n d : Nat} (h : m ≤ n) :
    roundDiv tie m d ≤ roundDiv tie n d := by
  have hquot : m / d ≤ n / d := Nat.div_le_div_right h
  rcases Nat.lt_or_eq_of_le hquot with hlt | heq
  · have := roundDiv_le tie m d
    have := le_roundDiv tie n d
    omega
  · have hrem : m % d ≤ n % d := by
      have hm := Nat.div_add_mod m d
      have hn := Nat.div_add_mod n d
      rw [heq] at hm
      omega
    unfold roundDiv
    dsimp only
    rw [heq]
    have : n / d % 2 < 2 := Nat.mod_lt _ (by decide)
    cases tie <;> dsimp only <;> split <;> split <;> (try split) <;> (try split) <;> omega

theorem roundDiv_mul_self (tie : Tie) {q d : Nat} (hd : 0 < d) : roundDiv tie (q * d) d = q := by
  simp [roundDiv, Nat.mul_div_cancel _ hd, hd]

end Decimal

namespace Binary64

variable {m n k : Nat} {a b : Int} {x y z e : Binary64}

/-! ### Rounding a whole number of units -/

theorem nearestUnits_one (n : Nat) :
    nearestUnits n 1 = Decimal.roundDiv .toEven n (spacing n) * spacing n := by
  simp [nearestUnits]

theorem nearestUnits_of_dvd (h : spacing n ∣ n) : nearestUnits n 1 = n := by
  obtain ⟨q, hq⟩ := h
  have hpos : 0 < spacing n := pow2_pos _
  have hn : n = q * spacing n := by rw [Nat.mul_comm]; exact hq
  rw [nearestUnits_one]
  generalize spacing n = s at hn hpos
  rw [hn, Decimal.roundDiv_mul_self _ hpos]

theorem nearestUnits_of_small (h : n < pow2 53) : nearestUnits n 1 = n :=
  nearestUnits_of_dvd (by rw [spacing_eq_one h]; exact Nat.one_dvd n)

theorem pow2_le_nearestUnits (lo : pow2 (52 + k) ≤ n) (hi : n < pow2 (53 + k)) :
    pow2 (52 + k) ≤ nearestUnits n 1 := by
  rw [nearestUnits_one, spacing_eq lo hi, pow2_add]
  apply Nat.mul_le_mul_right
  refine Nat.le_trans ?_ (Decimal.le_roundDiv .toEven n (pow2 k))
  rw [Nat.le_div_iff_mul_le (pow2_pos k), ← pow2_add]
  exact lo

/-- A number under a power of two that is on the grid does not round past it. -/
theorem nearestUnits_le_pow2 (h : n < pow2 (52 + k)) : nearestUnits n 1 ≤ pow2 (52 + k) := by
  by_cases small : n < pow2 52
  · have : pow2 52 < pow2 53 := pow2_lt_pow2 (by decide)
    rw [nearestUnits_of_small (by omega)]
    exact Nat.le_of_lt h
  · obtain ⟨j, lo, hi⟩ := exists_pow2_le_lt (Nat.not_lt.mp small)
    have hjk : j < k := by
      by_cases hjk : j < k
      · exact hjk
      · have : pow2 (52 + k) ≤ pow2 (52 + j) := Nat.pow_le_pow_right (by decide) (by omega)
        omega
    have hquot : n / pow2 j < pow2 53 := by
      rw [Nat.div_lt_iff_lt_mul (pow2_pos j), ← pow2_add]
      exact hi
    have hround := Decimal.roundDiv_le .toEven n (pow2 j)
    have hstep : nearestUnits n 1 ≤ pow2 53 * pow2 j := by
      rw [nearestUnits_one, spacing_eq lo hi]
      exact Nat.mul_le_mul_right _ (by omega)
    rw [← pow2_add] at hstep
    exact Nat.le_trans hstep (Nat.pow_le_pow_right (by decide) (by omega))

theorem nearestUnits_mono (h : m ≤ n) : nearestUnits m 1 ≤ nearestUnits n 1 := by
  by_cases small : n < pow2 52
  · have : pow2 52 < pow2 53 := pow2_lt_pow2 (by decide)
    rw [nearestUnits_of_small (by omega), nearestUnits_of_small (by omega)]
    exact h
  · obtain ⟨k, lo, hi⟩ := exists_pow2_le_lt (Nat.not_lt.mp small)
    by_cases below : m < pow2 (52 + k)
    · exact Nat.le_trans (nearestUnits_le_pow2 below) (pow2_le_nearestUnits lo hi)
    · have hm : spacing m = pow2 k := spacing_eq (by omega) (by omega)
      rw [nearestUnits_one m, nearestUnits_one n, hm, spacing_eq lo hi]
      exact Nat.mul_le_mul_right _ (Decimal.roundDiv_mono .toEven h)

/-- What a magnitude becomes when it is rounded; what is too large becomes the limit. -/
def magnitude (n : Nat) : Nat :=
  if nearestUnits n 1 < limit then nearestUnits n 1 else limit

theorem magnitude_mono (h : m ≤ n) : magnitude m ≤ magnitude n := by
  have := nearestUnits_mono h
  unfold magnitude
  split <;> split <;> omega

theorem magnitude_of_representable (h : Representable n) : magnitude n = n := by
  simp [magnitude, nearestUnits_of_dvd h.1, h.2]

theorem one_pos : 0 < one := by
  decide +kernel

theorem one_lt_limit : 1 < limit := by
  have h : pow2 0 < pow2 2098 := pow2_lt_pow2 (by decide)
  unfold limit
  generalize pow2 2098 = top at h
  exact h

theorem representable_one : Representable 1 := by
  have hspacing : spacing 1 = 1 := spacing_eq_one (by decide)
  rw [Representable, hspacing]
  exact ⟨Nat.dvd_refl 1, one_lt_limit⟩

theorem representable_zero : Representable 0 :=
  ⟨Nat.dvd_zero _, Nat.lt_trans Nat.zero_lt_one one_lt_limit⟩

/-- What a number of units becomes when it is rounded. -/
def rounded (n : Int) : Int :=
  if n < 0 then -(magnitude n.natAbs : Int) else magnitude n.natAbs

theorem rounded_mono (h : a ≤ b) : rounded a ≤ rounded b := by
  unfold rounded
  split <;> split
  · have : magnitude b.natAbs ≤ magnitude a.natAbs := magnitude_mono (by omega)
    omega
  · omega
  · omega
  · have : magnitude a.natAbs ≤ magnitude b.natAbs := magnitude_mono (by omega)
    omega

theorem rounded_zero : rounded 0 = 0 := by
  rw [rounded, if_neg (Int.lt_irrefl 0), Int.natAbs_zero,
    magnitude_of_representable representable_zero]
  rfl

theorem rounded_pos_iff : 0 < rounded a ↔ 0 < a := by
  constructor
  · intro h
    by_cases ha : 0 < a
    · exact ha
    · have := rounded_mono (show a ≤ 0 by omega)
      rw [rounded_zero] at this
      omega
  · intro h
    have hone : rounded 1 = 1 := by simp [rounded, magnitude_of_representable representable_one]
    have := rounded_mono (show 1 ≤ a by omega)
    omega

/-! ### Positions on the extended line -/

def signed (negative : Bool) (n : Nat) : Int :=
  if negative then -(n : Int) else n

@[simp] theorem signed_false (n : Nat) : signed false n = n := rfl

@[simp] theorem signed_true (n : Nat) : signed true n = -n := rfl

theorem signed_not (s : Bool) (n : Nat) : signed (!s) n = -signed s n := by
  cases s
  · rfl
  · exact (Int.neg_neg _).symm

theorem signed_add (s : Bool) (m n : Nat) : signed s m + signed s n = signed s (m + n) := by
  cases s
  · exact (Int.natCast_add m n).symm
  · rw [signed_true, signed_true, signed_true]
    omega

theorem rounded_signed (s : Bool) (n : Nat) : rounded (signed s n) = signed s (magnitude n) := by
  cases s
  · have hn : ¬ (n : Int) < 0 := by omega
    rw [signed_false, signed_false, rounded, if_neg hn, Int.natAbs_natCast]
  · by_cases hn : n = 0
    · subst hn
      rw [magnitude_of_representable representable_zero]
      exact rounded_zero
    · have hneg : -(n : Int) < 0 := by omega
      rw [signed_true, signed_true, rounded, if_pos hneg, Int.natAbs_neg, Int.natAbs_natCast]

theorem signed_lt_limit (s : Bool) (h : Representable n) :
    -limit < signed s n ∧ signed s n < limit := by
  have := h.2
  cases s
  · rw [signed_false]
    omega
  · rw [signed_true]
    omega

theorem signed_ne_limit (s t : Bool) (h : Representable n) : signed t n ≠ signed s limit := by
  have := signed_lt_limit t h
  cases s
  · rw [signed_false]
    omega
  · rw [signed_true]
    omega

@[simp] theorem position_nan (s : Bool) : (nan s).position = none := rfl

@[simp] theorem position_infinite (s : Bool) : (infinite s).position = some (signed s limit) := rfl

@[simp] theorem position_finite (s : Bool) (h : Representable n) :
    (finite s n h).position = some (signed s n) := rfl

theorem position_ofUnits (s : Bool) (n : Nat) :
    (ofUnits s n 1).position = some (signed s (magnitude n)) := by
  unfold ofUnits magnitude
  split <;> rfl

theorem position_le_limit (h : x.position = some a) : -limit ≤ a ∧ a ≤ limit := by
  cases x with
  | nan s => cases h
  | infinite s =>
    obtain rfl : signed s limit = a := Option.some.inj h
    cases s
    · rw [signed_false]
      omega
    · rw [signed_true]
      omega
  | finite s n hn =>
    obtain rfl : signed s n = a := Option.some.inj h
    have := signed_lt_limit s hn
    omega

theorem le_iff : x ≤ y ↔ ∃ a b, x.position = some a ∧ y.position = some b ∧ a ≤ b := by
  change x.le y = true ↔ _
  unfold le
  split <;> simp_all

theorem lt_iff : x < y ↔ ∃ a b, x.position = some a ∧ y.position = some b ∧ a < b := by
  change x.lt y = true ↔ _
  unfold lt
  split <;> simp_all

/-! ### Sums

An infinite operand decides a sum unless the other one is infinite the other way. -/

theorem position_add_finite (s t : Bool) (hm : Representable m) (hn : Representable n) :
    (add (finite s m hm) (finite t n hn)).position = some (rounded (signed s m + signed t n)) := by
  have of_units (r : Bool) (k : Nat) (h : signed s m + signed t n = signed r k) :
      (ofUnits r k 1).position = some (rounded (signed s m + signed t n)) := by
    rw [h, rounded_signed, position_ofUnits]
  unfold add
  dsimp only
  split
  · rename_i hst
    subst hst
    exact of_units _ _ (signed_add s m n)
  · split
    · exact of_units _ _ (by cases s <;> cases t <;> simp_all [signed] <;> omega)
    · split
      · exact of_units _ _ (by cases s <;> cases t <;> simp_all [signed] <;> omega)
      · exact of_units _ _ (by cases s <;> cases t <;> simp_all [signed] <;> omega)

/-- Where the sum of two values stands on the extended line, if anywhere. -/
def sumPosition (a b : Int) : Option Int :=
  if a = limit then if b = -limit then none else some limit
  else if a = -limit then if b = limit then none else some (-limit)
  else if b = limit then some limit
  else if b = -limit then some (-limit)
  else some (rounded (a + b))

theorem sumPosition_comm (a b : Int) : sumPosition a b = sumPosition b a := by
  have hcomm : rounded (a + b) = rounded (b + a) := by rw [Int.add_comm]
  grind [sumPosition]

theorem sumPosition_of_ne (s : Bool) (h : b ≠ signed (!s) limit) :
    sumPosition (signed s limit) b = some (signed s limit) := by
  have hpos := one_lt_limit
  cases s
  · change b ≠ -limit at h
    rw [signed_false, sumPosition, if_pos rfl, if_neg h]
  · change b ≠ limit at h
    rw [signed_true, sumPosition, if_neg (by omega), if_pos rfl, if_neg h]

theorem sumPosition_not (s : Bool) : sumPosition (signed s limit) (signed (!s) limit) = none := by
  have hpos := one_lt_limit
  cases s
  · change sumPosition limit (-limit) = none
    rw [sumPosition, if_pos rfl, if_pos rfl]
  · change sumPosition (-limit) limit = none
    rw [sumPosition, if_neg (by omega), if_pos rfl, if_pos rfl]

theorem position_add (hx : x.position = some a) (hy : y.position = some b) :
    (add x y).position = sumPosition a b := by
  have hpos := one_lt_limit
  cases x with
  | nan s => cases hx
  | infinite s =>
    obtain rfl : signed s limit = a := Option.some.inj hx
    cases y with
    | nan t => cases hy
    | infinite t =>
      obtain rfl : signed t limit = b := Option.some.inj hy
      by_cases hst : s = t
      · subst hst
        have hne : signed s limit ≠ signed (!s) limit := by
          rw [signed_not]
          cases s
          · rw [signed_false]
            omega
          · rw [signed_true]
            omega
        rw [add, if_pos rfl, sumPosition_of_ne s hne, position_infinite]
      · obtain rfl : t = !s := Bool.eq_not.mpr (Ne.symm hst)
        rw [add, if_neg hst, sumPosition_not, position_nan]
    | finite t n hn =>
      obtain rfl : signed t n = b := Option.some.inj hy
      rw [add, sumPosition_of_ne s (signed_ne_limit (!s) t hn), position_infinite]
  | finite s m hm =>
    obtain rfl : signed s m = a := Option.some.inj hx
    cases y with
    | nan t => cases hy
    | infinite t =>
      obtain rfl : signed t limit = b := Option.some.inj hy
      rw [add, sumPosition_comm, sumPosition_of_ne t (signed_ne_limit (!t) s hm),
        position_infinite]
    | finite t n hn =>
      obtain rfl : signed t n = b := Option.some.inj hy
      have hs := signed_lt_limit s hm
      have ht := signed_lt_limit t hn
      rw [position_add_finite, sumPosition]
      rw [if_neg (by omega), if_neg (by omega), if_neg (by omega), if_neg (by omega)]

theorem position_of_add (h : (add x y).position = some a) :
    ∃ b c, x.position = some b ∧ y.position = some c ∧ sumPosition b c = some a := by
  cases hx : x.position with
  | none => cases x <;> simp_all [add]
  | some b =>
    cases hy : y.position with
    | none => cases x <;> cases y <;> simp_all [add]
    | some c => exact ⟨b, c, rfl, rfl, by rw [← position_add hx hy, h]⟩

theorem position_negate (x : Binary64) : x.negate.position = x.position.map (- ·) := by
  cases x with
  | nan s => rfl
  | infinite s => exact congrArg some (signed_not s limit)
  | finite s n hn => exact congrArg some (signed_not s n)

theorem position_sub (x y : Binary64) : (sub x y).position = (add x y.negate).position := by
  cases x <;> cases y <;> rfl

theorem rounded_position (h : x.position = some a) (hlow : -limit < a) (hhigh : a < limit) :
    rounded a = a := by
  cases x with
  | nan s => cases h
  | infinite s =>
    obtain rfl : signed s limit = a := Option.some.inj h
    cases s
    · exact absurd hhigh (Int.lt_irrefl _)
    · exact absurd hlow (Int.lt_irrefl _)
  | finite s n hn =>
    obtain rfl : signed s n = a := Option.some.inj h
    rw [rounded_signed, magnitude_of_representable hn]

theorem rounded_bounds (a : Int) : -limit ≤ rounded a ∧ rounded a ≤ limit := by
  have : magnitude a.natAbs ≤ limit := by
    unfold magnitude
    split <;> omega
  unfold rounded
  split <;> omega

theorem sumPosition_mono_left {c d : Int} (hab : a ≤ b) (ha : -limit ≤ a) (hb : b ≤ limit)
    (h : sumPosition b c = some d) (hd : d < limit) :
    ∃ d', sumPosition a c = some d' ∧ d' ≤ d := by
  have hpos := one_lt_limit
  have hround := rounded_mono (show a + c ≤ b + c by omega)
  have := rounded_bounds (b + c)
  grind [sumPosition]

theorem sumPosition_mono_right {c d : Int} (hab : a ≤ b) (ha : -limit ≤ a) (hb : b ≤ limit)
    (h : sumPosition a c = some d) (hd : -limit < d) :
    ∃ d', sumPosition b c = some d' ∧ d ≤ d' := by
  have hpos := one_lt_limit
  have hround := rounded_mono (show a + c ≤ b + c by omega)
  have := rounded_bounds (a + c)
  grind [sumPosition]

theorem le_of_sumPosition (hx : x.position = some a) {c d : Int} (hc : 0 ≤ c)
    (h : sumPosition a c = some d) : a ≤ d := by
  have hbound := position_le_limit hx
  have hround := rounded_mono (show a ≤ a + c by omega)
  have hself := rounded_position hx
  grind [sumPosition]

theorem sumPosition_le (hx : x.position = some a) {c d : Int} (hc : c ≤ 0)
    (h : sumPosition a c = some d) : d ≤ a := by
  have hbound := position_le_limit hx
  have hround := rounded_mono (show a + c ≤ a by omega)
  have hself := rounded_position hx
  grind [sumPosition]

theorem sumPosition_pos_iff (ha : -limit ≤ a ∧ a ≤ limit) (hb : -limit ≤ b ∧ b ≤ limit) :
    (∃ d, sumPosition b (-a) = some d ∧ 0 < d) ↔ a < b := by
  have hpos := one_lt_limit
  have hround := rounded_pos_iff (a := b + -a)
  grind [sumPosition]

/-! ### Positions decide -/

theorem le_iff_of_position (hx : x.position = some a) (hy : y.position = some b) :
    x ≤ y ↔ a ≤ b := by
  simp [le_iff, hx, hy]

theorem lt_iff_of_position (hx : x.position = some a) (hy : y.position = some b) :
    x < y ↔ a < b := by
  simp [lt_iff, hx, hy]

theorem exists_position (h : Scalar.reading x ≠ .nan) : ∃ a, x.position = some a := by
  cases x with
  | nan s => exact absurd rfl h
  | infinite s => exact ⟨_, rfl⟩
  | finite s n hn => exact ⟨_, rfl⟩

theorem le_of_not_lt (hx : Scalar.reading x ≠ .nan) (hy : Scalar.reading y ≠ .nan)
    (h : ¬ x < y) : y ≤ x := by
  obtain ⟨a, ha⟩ := exists_position hx
  obtain ⟨b, hb⟩ := exists_position hy
  refine (le_iff_of_position hb ha).mpr (Int.not_lt.mp fun hab => h ?_)
  exact (lt_iff_of_position ha hb).mpr hab

theorem lt_of_not_le (hx : Scalar.reading x ≠ .nan) (hy : Scalar.reading y ≠ .nan)
    (h : ¬ x ≤ y) : y < x := by
  obtain ⟨a, ha⟩ := exists_position hx
  obtain ⟨b, hb⟩ := exists_position hy
  refine (lt_iff_of_position hb ha).mpr (Int.not_le.mp fun hab => h ?_)
  exact (le_iff_of_position ha hb).mpr hab

theorem position_max (hx : x.position = some a) (hy : y.position = some b) :
    (Scalar.max x y).position = some (max a b) := by
  simp only [Scalar.max, le_iff_of_position hx hx, le_iff_of_position hy hy,
    lt_iff_of_position hy hx, Int.le_refl, not_true_eq_false, if_false, or_false]
  split
  · rw [hx, max_eq_left (by omega)]
  · rw [hy, max_eq_right (by omega)]

theorem position_min (hx : x.position = some a) (hy : y.position = some b) :
    (Scalar.min x y).position = some (min a b) := by
  simp only [Scalar.min, le_iff_of_position hx hx, le_iff_of_position hy hy,
    lt_iff_of_position hx hy, Int.le_refl, not_true_eq_false, if_false, or_false]
  split
  · rw [hx, min_eq_left (by omega)]
  · rw [hy, min_eq_right (by omega)]

/-- A finite value stands inside the extended line. -/
theorem isFinite_iff : Scalar.isFinite x = true ↔
    ∃ a, x.position = some a ∧ -limit < a ∧ a < limit := by
  cases x with
  | nan s =>
    constructor
    · intro h
      cases h
    · rintro ⟨a, ha, -⟩
      cases ha
  | infinite s =>
    constructor
    · intro h
      cases h
    · rintro ⟨a, ha, hlow, hhigh⟩
      obtain rfl : signed s limit = a := Option.some.inj ha
      cases s
      · exact absurd hhigh (Int.lt_irrefl _)
      · exact absurd hlow (Int.lt_irrefl _)
  | finite s n hn =>
    have hbounds := signed_lt_limit s hn
    exact ⟨fun _ => ⟨_, rfl, hbounds⟩, fun _ => rfl⟩

theorem reading_ne_nan (h : Scalar.isFinite x = true) : Scalar.reading x ≠ .nan := by
  intro hnan
  unfold Scalar.isFinite at h
  rw [hnan] at h
  cases h

theorem isFinite_of_between (hx : Scalar.isFinite x = true) (hz : Scalar.isFinite z = true)
    (hxy : x ≤ y) (hyz : y ≤ z) : Scalar.isFinite y = true := by
  obtain ⟨a, ha, hlow, -⟩ := isFinite_iff.mp hx
  obtain ⟨c, hc, -, hhigh⟩ := isFinite_iff.mp hz
  obtain ⟨a', b, ha', hb, hab⟩ := le_iff.mp hxy
  obtain rfl : a' = a := by simpa [ha] using ha'.symm
  have hbc := (le_iff_of_position hb hc).mp hyz
  exact isFinite_iff.mpr ⟨b, hb, by omega, by omega⟩

theorem clamp_between {lo hi : Binary64} (hle : lo ≤ hi) (h : Scalar.reading x ≠ .nan) :
    lo ≤ Scalar.clamp lo hi x ∧ Scalar.clamp lo hi x ≤ hi := by
  obtain ⟨a, b, ha, hb, hab⟩ := le_iff.mp hle
  obtain ⟨c, hc⟩ := exists_position h
  simp only [Scalar.clamp, lt_iff_of_position hc ha, lt_iff_of_position hb hc]
  split
  · exact ⟨(le_iff_of_position ha ha).mpr (Int.le_refl a), hle⟩
  · split
    · exact ⟨hle, (le_iff_of_position hb hb).mpr (Int.le_refl b)⟩
    · exact ⟨(le_iff_of_position ha hc).mpr (by omega), (le_iff_of_position hc hb).mpr (by omega)⟩

/-! ### The laws -/

theorem position_zero : (0 : Binary64).position = some 0 := by
  change (ofUnits false 0 1).position = some 0
  rw [position_ofUnits, magnitude_of_representable representable_zero]
  rfl

theorem lt_of_position (hx : x.position = some a) (hy : y.position = some b) (h : a < b) : x < y :=
  lt_iff.mpr ⟨a, b, hx, hy, h⟩

theorem add_lt_of_le (hxy : x ≤ y) (h : y + e < z) : x + e < z := by
  obtain ⟨a, b, hx, hy, hab⟩ := le_iff.mp hxy
  obtain ⟨d, c, hsum, hz, hdc⟩ := lt_iff.mp h
  obtain ⟨b', k, hy', he, hd⟩ := position_of_add hsum
  obtain rfl : b' = b := by simpa [hy] using hy'.symm
  have htop := (position_le_limit hz).2
  obtain ⟨d', hd', hle⟩ := sumPosition_mono_left hab (position_le_limit hx).1
    (position_le_limit hy).2 hd (by omega)
  exact lt_of_position ((position_add hx he).trans hd') hz (by omega)

theorem lt_add_of_le (hxy : x ≤ y) (h : z < x + e) : z < y + e := by
  obtain ⟨a, b, hx, hy, hab⟩ := le_iff.mp hxy
  obtain ⟨c, d, hz, hsum, hcd⟩ := lt_iff.mp h
  obtain ⟨a', k, hx', he, hd⟩ := position_of_add hsum
  obtain rfl : a' = a := by simpa [hx] using hx'.symm
  have hbot := (position_le_limit hz).1
  obtain ⟨d', hd', hle⟩ := sumPosition_mono_right hab (position_le_limit hx).1
    (position_le_limit hy).2 hd (by omega)
  exact lt_of_position hz ((position_add hy he).trans hd') (by omega)

theorem lt_sub_iff_lt_add_negate : z < x - e ↔ z < x + e.negate := by
  rw [lt_iff, lt_iff]
  change (∃ a b, _ ∧ (sub x e).position = some b ∧ _) ↔ _
  rw [position_sub]
  rfl

theorem lt_of_add_lt (he : 0 ≤ e) (h : x + e < z) : x < z := by
  obtain ⟨zero, k, hzero, hk, hnonneg⟩ := le_iff.mp he
  obtain rfl : zero = 0 := by simpa [position_zero] using hzero.symm
  obtain ⟨d, c, hsum, hz, hdc⟩ := lt_iff.mp h
  obtain ⟨a, k', hx, hk', hd⟩ := position_of_add hsum
  obtain rfl : k' = k := by simpa [hk] using hk'.symm
  have := le_of_sumPosition hx hnonneg hd
  exact lt_of_position hx hz (by omega)

theorem lt_of_lt_sub (he : 0 ≤ e) (h : z < x - e) : z < x := by
  obtain ⟨zero, k, hzero, hk, hnonneg⟩ := le_iff.mp he
  obtain rfl : zero = 0 := by simpa [position_zero] using hzero.symm
  obtain ⟨c, d, hz, hsum, hcd⟩ := lt_iff.mp (lt_sub_iff_lt_add_negate.mp h)
  obtain ⟨a, k', hx, hk', hd⟩ := position_of_add hsum
  obtain rfl : k' = -k := by simpa [position_negate, hk] using hk'.symm
  have := sumPosition_le hx (by omega) hd
  exact lt_of_position hz hx (by omega)

theorem sub_pos_iff : 0 < y - x ↔ x < y := by
  rw [lt_sub_iff_lt_add_negate]
  constructor
  · intro h
    obtain ⟨zero, d, hzero, hsum, hpos⟩ := lt_iff.mp h
    obtain rfl : zero = 0 := by simpa [position_zero] using hzero.symm
    obtain ⟨b, k, hy, hk, hd⟩ := position_of_add hsum
    rw [position_negate] at hk
    obtain ⟨a, hx, rfl⟩ := Option.map_eq_some_iff.mp hk
    exact lt_of_position hx hy
      ((sumPosition_pos_iff (position_le_limit hx) (position_le_limit hy)).mp ⟨d, hd, hpos⟩)
  · intro h
    obtain ⟨a, b, hx, hy, hab⟩ := lt_iff.mp h
    obtain ⟨d, hd, hpos⟩ :=
      (sumPosition_pos_iff (position_le_limit hx) (position_le_limit hy)).mpr hab
    have hnegate : x.negate.position = some (-a) := by simp [position_negate, hx]
    exact lt_of_position position_zero ((position_add hy hnegate).trans hd) hpos

theorem zero_le_ofUnits (n d : Nat) : 0 ≤ ofUnits false n d := by
  unfold ofUnits
  split
  · exact le_iff.mpr ⟨0, _, position_zero, rfl, Int.natCast_nonneg _⟩
  · exact le_iff.mpr ⟨0, _, position_zero, rfl, Int.natCast_nonneg _⟩

theorem decimal_nonneg (m e : Nat) :
    0 ≤ (OfScientific.ofScientific m true e : Binary64) := by
  have htop : 0 ≤ infinite false := le_iff.mpr ⟨0, limit, position_zero, rfl, by omega⟩
  change 0 ≤ ofDecimal false m (-(e : Int))
  unfold ofDecimal
  split
  · exact zero_le_ofUnits 0 1
  · dsimp only
    split
    · exact htop
    · split
      · exact zero_le_ofUnits 0 1
      · split <;> exact zero_le_ofUnits _ _

instance : LawfulScalar Binary64 where
  le_trans hxy hyz := by
    obtain ⟨a, b, hx, hy, hab⟩ := le_iff.mp hxy
    obtain ⟨b', c, hy', hz, hbc⟩ := le_iff.mp hyz
    obtain rfl : b' = b := by simpa [hy] using hy'.symm
    exact le_iff.mpr ⟨a, c, hx, hz, by omega⟩
  lt_iff_le_not_ge {x y} := by
    rw [lt_iff, le_iff, le_iff]
    cases x.position <;> cases y.position <;> simp
    omega
  le_self_left hxy := by
    obtain ⟨a, b, hx, hy, hab⟩ := le_iff.mp hxy
    exact le_iff.mpr ⟨a, a, hx, hx, Int.le_refl a⟩
  le_self_right hxy := by
    obtain ⟨a, b, hx, hy, hab⟩ := le_iff.mp hxy
    exact le_iff.mpr ⟨b, b, hy, hy, Int.le_refl b⟩
  decimal_nonneg := decimal_nonneg
  add_lt_of_le := add_lt_of_le
  lt_sub_of_le hxy h := lt_sub_iff_lt_add_negate.mpr
    (lt_add_of_le hxy (lt_sub_iff_lt_add_negate.mp h))
  lt_of_add_lt := lt_of_add_lt
  lt_of_lt_sub := lt_of_lt_sub
  sub_pos := sub_pos_iff
  precedes_trans x y z hxy hyz := by
    simp only [Scalar.precedes, decide_eq_true_eq] at *
    omega
  precedes_total x y := by
    simp only [Scalar.precedes, Bool.or_eq_true, decide_eq_true_eq]
    omega

/-- The total order keeps apart even a zero and its negative. -/
theorem rank_injective : Function.Injective rank := by
  intro x y h
  have hpos := one_lt_limit
  cases x with
  | nan s => cases y <;> grind [rank, Representable]
  | infinite s => cases y <;> grind [rank, Representable]
  | finite s n hn => cases y <;> grind [rank, Representable]

instance : LinearScalar Binary64 where
  precedes_antisymm x y hxy hyx := by
    simp only [Scalar.precedes, decide_eq_true_eq] at hxy hyx
    exact rank_injective (Int.le_antisymm hxy hyx)

end Binary64

end Montage
