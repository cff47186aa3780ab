import Montage.Proofs.Number.Binary64
import Montage.Proofs.Plan.Crops
import Montage.Proofs.Plan.Pace
import Montage.Proofs.Text.Words

/-! The windows that clips cut out of the media, as their filters print them. A time is printed as
its value with six decimals and nothing else, so that times that are the same are printed alike. -/
namespace Montage

namespace Binary64

variable {x y : Binary64} {a : Int}

theorem exists_reading (h : Scalar.isFinite x = true) :
    ∃ negative units, Scalar.reading x = .finite negative units one := by
  cases x with
  | nan s => cases h
  | infinite s => cases h
  | finite s n hn => exact ⟨s, n, rfl⟩

theorem value_eq (hfinite : Scalar.isFinite x = true) (h : x.position = some a) :
    (Scalar.reading x).value = a / one := by
  cases x with
  | nan s => cases h
  | infinite s => cases hfinite
  | finite s n hn =>
    obtain rfl : signed s n = a := Option.some.inj h
    cases s with
    | false =>
      rw [signed_false, Int.cast_natCast]
      rfl
    | true =>
      rw [signed_true, Int.cast_neg, Int.cast_natCast, neg_div]
      rfl

theorem value_mono (hx : Scalar.isFinite x = true) (hy : Scalar.isFinite y = true) (h : x ≤ y) :
    (Scalar.reading x).value ≤ (Scalar.reading y).value := by
  obtain ⟨a, b, ha, hb, hab⟩ := le_iff.mp h
  rw [value_eq hx ha, value_eq hy hb]
  exact div_le_div_of_nonneg_right (by exact_mod_cast hab) (Nat.cast_nonneg _)

/-- Only infinity stands where it does. -/
theorem eq_infinite {s : Bool} (h : x.position = some (signed s limit)) : x = infinite s := by
  have hpos := one_lt_limit
  cases x with
  | nan t => cases h
  | infinite t =>
    have hsame : signed t limit = signed s limit := Option.some.inj h
    cases s <;> cases t
    · rfl
    · rw [signed_true, signed_false] at hsame
      omega
    · rw [signed_true, signed_false] at hsame
      omega
    · rfl
  | finite t n hn => exact absurd (Option.some.inj h) (signed_ne_limit s t hn)

end Binary64

namespace Scalar

variable {x y : Binary64}

theorem decimal?_seconds_of_isFinite (h : isFinite x = true) :
    Decimal.decimal? (seconds x).toList = some (Rational.toDecimals 6 (reading x).value) := by
  obtain ⟨negative, units, hreading⟩ := Binary64.exists_reading h
  exact decimal?_seconds hreading Binary64.one_pos

theorem seconds_eq_iff_of_isFinite (hx : isFinite x = true) (hy : isFinite y = true) :
    seconds x = seconds y ↔
      Rational.toDecimals 6 (reading x).value = Rational.toDecimals 6 (reading y).value := by
  obtain ⟨negative, units, hreading⟩ := Binary64.exists_reading hx
  obtain ⟨negative', units', hreading'⟩ := Binary64.exists_reading hy
  exact seconds_eq_iff hreading Binary64.one_pos hreading' Binary64.one_pos

/-- A zero and its negative are the same, and so are printed alike. -/
theorem seconds_eq_of_same (h : Same x y) : seconds x = seconds y := by
  obtain ⟨a, b, ha, hb, hab⟩ := Binary64.le_iff.mp h.1
  obtain rfl : a = b := le_antisymm hab ((Binary64.le_iff_of_position hb ha).mp h.2)
  by_cases hx : isFinite x = true
  · have hy : isFinite y = true := by
      obtain ⟨a', ha', hbounds⟩ := Binary64.isFinite_iff.mp hx
      obtain rfl : a' = a := by simpa [ha] using ha'.symm
      exact Binary64.isFinite_iff.mpr ⟨a', hb, hbounds⟩
    rw [seconds_eq_iff_of_isFinite hx hy, Binary64.value_eq hx ha, Binary64.value_eq hy hb]
  · cases x with
    | nan s => cases ha
    | finite s n hn => exact absurd rfl hx
    | infinite s => rw [Binary64.eq_infinite (hb.trans ha.symm)]

end Scalar

namespace Plan

variable {α : Type} [Scalar α]

/-! ### Reading -/

/-- The stretch that the filter of a name cuts out of the media, as its text says. -/
def window? (name text : String) : Option (Span String) :=
  match (argument? name text).map (Text.splitOn (· = ':')) with
  | some [start, stop] => do
    let start ← argument? "start" (String.ofList start)
    let stop ← argument? "end" (String.ofList stop)
    some ⟨String.ofList start, String.ofList stop⟩
  | _ => none

/-- The stretch that a stage cuts out of the pictures or the sound of the media. -/
def cut? (s : Stage (Filter α)) : Option (Span String) :=
  (s.filters.map Filter.print).findSome? fun text =>
    (window? "trim" text).or (window? "atrim" text)

theorem window?_printSpan (name : String) (span : Span α) :
    window? name (name ++ "=" ++ Filter.printSpan span) =
      some ⟨Scalar.seconds span.start, Scalar.seconds span.stop⟩ := by
  have hcolon {key : String} (hkey : ':' ∉ key.toList) (x : α) :
      ∀ c ∈ (key ++ Scalar.seconds x).toList, decide (c = ':') = false := by
    intro c hc
    rw [decide_eq_false_iff_not]
    rintro rfl
    rw [String.toList_append] at hc
    rcases List.mem_append.mp hc with hc | hc
    · exact hkey hc
    · exact absurd (Scalar.isNumberChar_of_mem_seconds hc) (by simp [IsNumberChar])
  have htext : (Filter.printSpan span).toList =
      ("start" ++ "=" ++ Scalar.seconds span.start).toList ++
        ':' :: ("end" ++ "=" ++ Scalar.seconds span.stop).toList := by
    simp [Filter.printSpan]
  have hpieces : Text.splitOn (· = ':') (Filter.printSpan span).toList =
      [("start" ++ "=" ++ Scalar.seconds span.start).toList,
        ("end" ++ "=" ++ Scalar.seconds span.stop).toList] := by
    rw [htext, Text.splitOn_append_mark (hcolon (by decide) _) (by decide),
      Text.splitOn_of_no_mark (hcolon (by decide) _)]
  rw [window?, argument?_eq, Option.map_some, hpieces]
  simp only [String.ofList_toList, argument?_eq, Option.bind_eq_bind, Option.bind_some]

theorem cut?_pictureStage (index : Nat) (c : Clip α) (changes : List (Filter α)) :
    cut? (c.pictureStage index changes) =
      some ⟨Scalar.seconds c.span.start, Scalar.seconds c.span.stop⟩ := by
  have hwindow : window? "trim" (Filter.trim c.span).print = _ := window?_printSpan "trim" c.span
  rw [cut?, Clip.pictureStage, List.append_assoc, List.map_append, List.map_cons, List.cons_append,
    List.findSome?_cons, hwindow]
  rfl

theorem cut?_soundStage (index : Nat) (c : Clip α) :
    cut? (c.soundStage index) =
      some ⟨Scalar.seconds c.span.start, Scalar.seconds c.span.stop⟩ := by
  have hwindow : window? "atrim" (Filter.trimSound c.span).print = _ :=
    window?_printSpan "atrim" c.span
  have hpicture : window? "trim" (Filter.trimSound c.span).print = none := by
    have htext : (Filter.trimSound c.span).print = "a" ++ ("trim=" ++ Filter.printSpan c.span) := by
      rw [← String.append_assoc]
      rfl
    rw [window?, htext, argument?_eq_none _ (by decide) (by decide)]
    rfl
  rw [cut?, Clip.soundStage, List.append_assoc, List.map_append, List.map_cons, List.cons_append,
    List.findSome?_cons, hpicture, hwindow]
  rfl

/-- Picture and sound of a clip cut out the window of the clip. -/
theorem exists_cut {t : Timeline α} {options : PlanOptions} {g : Graph (Filter α)} {i : Nat}
    {c : Clip α} (h : graph t options = .ok g) (hc : t.clips[i / 2]? = some c) :
    ∃ s, g.stages[i]? = some s ∧
      cut? s = some ⟨Scalar.seconds c.span.start, Scalar.seconds c.span.stop⟩ := by
  obtain ⟨hpicture, hsound⟩ := getElem?_stages options hc
  rw [eq_of_graph h, Graph.stages_ofStages]
  rcases Nat.mod_two_eq_zero_or_one i with heven | hodd
  · rw [show 2 * (i / 2) = i by omega] at hpicture
    exact ⟨_, hpicture, cut?_pictureStage _ c _⟩
  · rw [show 2 * (i / 2) + 1 = i by omega] at hsound
    exact ⟨_, hsound, cut?_soundStage _ c⟩

/-- A finite time is printed as its value with six decimals, a half going to the even neighbour, and
with nothing that does not count. So two times are printed alike when they round alike, a later time
is never printed as an earlier one, and cuts that meet are printed with one text. -/
theorem seconds_canonical :
    (∀ x : Binary64, Scalar.isFinite x = true →
      Decimal.decimal? (Scalar.seconds x).toList =
        some (Rational.toDecimals 6 (Scalar.reading x).value) ∧
      Decimal.IsCanonical (Scalar.seconds x).toList) ∧
    (∀ x y : Binary64, Scalar.isFinite x = true → Scalar.isFinite y = true →
      (Scalar.seconds x = Scalar.seconds y ↔
        Rational.toDecimals 6 (Scalar.reading x).value =
          Rational.toDecimals 6 (Scalar.reading y).value) ∧
      (x ≤ y → ∃ p q, Decimal.decimal? (Scalar.seconds x).toList = some p ∧
        Decimal.decimal? (Scalar.seconds y).toList = some q ∧ p ≤ q)) ∧
    ∀ (t : Timeline Binary64) (options : PlanOptions) (g : Graph (Filter Binary64)),
      graph t options = .ok g → ∀ (i j : Nat) (c d : Clip Binary64),
        t.clips[i / 2]? = some c → t.clips[j / 2]? = some d →
        ∃ s s' v w, g.stages[i]? = some s ∧ g.stages[j]? = some s' ∧
          cut? s = some v ∧ cut? s' = some w ∧
          v = ⟨Scalar.seconds c.span.start, Scalar.seconds c.span.stop⟩ ∧
          (Scalar.Same c.span.stop d.span.start → v.stop = w.start) ∧
          (Scalar.Same c.span.start d.span.start → v.start = w.start) ∧
          (Scalar.Same c.span.stop d.span.stop → v.stop = w.stop) := by
  refine ⟨fun x hx => ?_, fun x y hx hy => ⟨Scalar.seconds_eq_iff_of_isFinite hx hy, fun hle => ?_⟩,
    fun t options g hgraph i j c d hc hd => ?_⟩
  · obtain ⟨negative, units, hreading⟩ := Binary64.exists_reading hx
    exact ⟨Scalar.decimal?_seconds_of_isFinite hx,
      Scalar.isCanonical_seconds hreading Binary64.one_pos⟩
  · exact ⟨_, _, Scalar.decimal?_seconds_of_isFinite hx, Scalar.decimal?_seconds_of_isFinite hy,
      Rational.toDecimals_mono 6 (Binary64.value_mono hx hy hle)⟩
  · obtain ⟨s, hs, hcut⟩ := exists_cut hgraph hc
    obtain ⟨s', hs', hcut'⟩ := exists_cut hgraph hd
    exact ⟨s, s', _, _, hs, hs', hcut, hcut', rfl, Scalar.seconds_eq_of_same,
      Scalar.seconds_eq_of_same, Scalar.seconds_eq_of_same⟩

/-- A half that goes down, a value that rounds to zero from below, and two clips that meet. -/
theorem seconds_canonical_of_half :
    let half : Binary64 := 0.0078125
    let below : Binary64 := 0 - 0.0000004
    let t : Timeline Binary64 :=
      { clips := [.source "a" ⟨0, half⟩, .source "b" ⟨half, 1200⟩]
        total := 1200
        texts := []
        fades := []
        music := [] }
    Scalar.isFinite half = true ∧ Scalar.isFinite below = true ∧ below ≤ half ∧
      Scalar.seconds half = "0.007812" ∧ Scalar.seconds below = "0" ∧
      Decimal.decimal? "0.007812".toList =
        some (Rational.toDecimals 6 (Scalar.reading half).value) ∧
      Decimal.IsCanonical "0".toList ∧
      (∃ p q, Decimal.decimal? "0".toList = some p ∧ Decimal.decimal? "0.007812".toList = some q ∧
        p ≤ q) ∧
      ∃ g s s' v w, graph t .default = .ok g ∧ g.stages[0]? = some s ∧ g.stages[3]? = some s' ∧
        cut? s = some v ∧ cut? s' = some w ∧ v.stop = "0.007812" ∧ w.start = v.stop := by
  intro half below t
  have hhalf : Scalar.isFinite half = true := by decide +kernel
  have hbelow : Scalar.isFinite below = true := by decide +kernel
  have horder : below ≤ half := by decide +kernel
  have htext : Scalar.seconds half = "0.007812" := by decide +kernel
  have hzero : Scalar.seconds below = "0" := by decide +kernel
  obtain ⟨hread, hpairs, hwindows⟩ := seconds_canonical
  have hprinted := (hpairs below half hbelow hhalf).2 horder
  rw [hzero, htext] at hprinted
  have hgraph : graph t .default = .ok (.ofStages (stages .default t)) :=
    graph_eq (List.cons_ne_nil _ _) (by decide +kernel)
  have hsame : Scalar.Same half half := by decide +kernel
  obtain ⟨s, s', v, w, hs, hs', hv, hw, hcut, hmeet, -, -⟩ :=
    hwindows t .default _ hgraph 0 3 _ _ rfl rfl
  refine ⟨hhalf, hbelow, horder, htext, hzero, htext ▸ (hread half hhalf).1,
    hzero ▸ (hread below hbelow).2, hprinted, _, s, s', v, w, hgraph, hs, hs', hv, hw, ?_, ?_⟩
  · rw [hcut]
    exact htext
  · exact (hmeet hsame).symm

end Plan

end Montage
