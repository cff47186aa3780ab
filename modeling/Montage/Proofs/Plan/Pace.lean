import Montage.Proofs.Clip.Tempo
import Montage.Proofs.Plan.Build
import Montage.Proofs.Timeline.Attributes
import Montage.Proofs.Timeline.Clocks

/-! How long the picture and the sound of a clip take, by what their filters say. The picture is
stretched by a factor of four decimals and the sound is sped up in steps, so that both lengths are
those of the rate but for their rounding. -/
namespace Montage.Plan

/-! ### Reading -/

/-- What a filter is given, if it has the name. -/
def argument? (name text : String) : Option (List Char) :=
  let start := (name ++ "=").toList
  if start <+: text.toList then some (text.toList.drop start.length) else none

/-- What the filters of a name are given, in order. -/
def arguments (name : String) (texts : List String) : List (List Char) :=
  texts.filterMap (argument? name)

/-- The factor in front of the time in the second filter that sets the time of pictures. -/
def stretchFactor? (texts : List String) : Option Rat :=
  (arguments "setpts" texts)[1]?.map fun argument => Decimal.quantity (argument.takeWhile (· ≠ '*'))

/-- The product of all changes of tempo. -/
def tempoProduct (texts : List String) : Rat :=
  Tempo.product ((arguments "atempo" texts).map Decimal.quantity)

theorem argument?_eq (name rest : String) :
    argument? name (name ++ "=" ++ rest) = some rest.toList := by
  have hstart : (name ++ "=" ++ rest).toList = (name ++ "=").toList ++ rest.toList :=
    String.toList_append
  rw [argument?, hstart, if_pos (List.prefix_append _ _), List.drop_left]

/-- A text that begins in another way has another name. -/
theorem argument?_eq_none {name start : String} (rest : String)
    (hlength : start.toList.length ≤ (name ++ "=").toList.length)
    (hstart : ¬ start.toList <+: (name ++ "=").toList) : argument? name (start ++ rest) = none := by
  refine if_neg fun hname => ?_
  have htext : start.toList <+: (start ++ rest).toList := by
    rw [String.toList_append]
    exact List.prefix_append _ _
  exact hstart (List.prefix_of_prefix_length_le htext hname hlength)

theorem arguments_append (name : String) (texts more : List String) :
    arguments name (texts ++ more) = arguments name texts ++ arguments name more :=
  List.filterMap_append

/-! ### The stages of a clip -/

section Stages

variable (index : Nat) (c : Clip Rat)

theorem stretchFactor?_pictureStage (changes : List (Filter Rat)) :
    stretchFactor? ((c.pictureStage index changes).filters.map Filter.print) =
      some (((Scalar.reading (1 / effectiveRate c.rate)).units 4 : Rat) / 10 ^ 4) := by
  have hpos : (0 : Rat) < 1 / effectiveRate c.rate := one_div_pos.mpr (effectiveRate_pos c.rate)
  generalize hfactor : (1 / effectiveRate c.rate : Rat) = factor at hpos
  have hfirst : arguments "setpts" ([Filter.trim c.span, .resetClock, .stretch factor].map
      Filter.print) = ["PTS-STARTPTS".toList, (Scalar.fixed 4 factor ++ "*PTS").toList] := by
    have htrim : argument? "setpts" (Filter.trim c.span).print = none :=
      argument?_eq_none _ (by decide) (by decide)
    have hreset : argument? "setpts" (Filter.print (α := Rat) .resetClock) =
        some "PTS-STARTPTS".toList := argument?_eq "setpts" "PTS-STARTPTS"
    have hstretch : argument? "setpts" (Filter.stretch factor).print =
        some (Scalar.fixed 4 factor ++ "*PTS").toList := by
      rw [← argument?_eq "setpts", ← String.append_assoc]
      rfl
    simp only [arguments, List.map_cons, List.map_nil, List.filterMap_cons, List.filterMap_nil,
      htrim, hreset, hstretch]
  have hsecond : (arguments "setpts" ((c.pictureStage index changes).filters.map
      Filter.print))[1]? = some (Scalar.fixed 4 factor ++ "*PTS").toList := by
    rw [Clip.pictureStage, hfactor, List.append_assoc, List.map_append, arguments_append, hfirst]
    rfl
  have hdigits : ∀ d ∈ (Scalar.fixed 4 factor).toList, decide (d ≠ '*') = true := by
    intro d hd
    rw [decide_eq_true_eq]
    rintro rfl
    exact absurd (Scalar.isNumberChar_of_mem_fixed hd) (by simp [IsNumberChar])
  rw [stretchFactor?, hsecond, Option.map_some, String.toList_append,
    List.takeWhile_append_of_pos hdigits]
  change some (Decimal.quantity ((Scalar.fixed 4 factor).toList ++ [])) = _
  rw [List.append_nil, Rational.quantity_fixed (le_of_lt hpos)]

theorem tempoProduct_soundStage :
    tempoProduct ((c.soundStage index).filters.map Filter.print) =
      Tempo.product (Tempo.steps c.rate) := by
  have hfirst : arguments "atempo" ([Filter.trimSound c.span, .resetSoundClock].map
      Filter.print) = [] := by
    have htrim : argument? "atempo" (Filter.trimSound c.span).print = none :=
      argument?_eq_none _ (by decide) (by decide)
    have hreset : argument? "atempo" (Filter.print (α := Rat) .resetSoundClock) = none := by
      decide
    simp only [arguments, List.map_cons, List.map_nil, List.filterMap_cons, List.filterMap_nil,
      htrim, hreset]
  have hlast : arguments "atempo" ((if Clip.isFullVolume c.volume then [] else
      [Filter.volume (Scalar.clamp 0 1 c.volume)]).map Filter.print) = [] := by
    split
    · rfl
    · have hvolume (level : Rat) : argument? "atempo" (Filter.volume level).print = none :=
        argument?_eq_none _ (by decide) (by decide)
      simp only [arguments, List.map_cons, List.map_nil, List.filterMap_cons, List.filterMap_nil,
        hvolume]
  have hsteps (steps : List Rat) : arguments "atempo" ((steps.map Filter.tempo).map Filter.print) =
      steps.map fun step => (Scalar.shortest step).toList := by
    induction steps with
    | nil => rfl
    | cons step rest ih =>
      have hstep : argument? "atempo" (Filter.tempo step).print =
          some (Scalar.shortest step).toList := argument?_eq "atempo" _
      rw [List.map_cons, List.map_cons, arguments, List.filterMap_cons_some hstep]
      exact congrArg _ ih
  have hread : (Tempo.steps c.rate).map (fun step => Decimal.quantity
      (Scalar.shortest step).toList) = Tempo.steps c.rate := by
    conv_rhs => rw [← List.map_id (Tempo.steps c.rate)]
    exact List.map_congr_left fun step hstep => Tempo.quantity_shortest_of_mem_steps hstep
  rw [tempoProduct, Clip.soundStage, List.map_append, List.map_append, arguments_append,
    arguments_append, hfirst, hlast, hsteps, List.nil_append, List.append_nil, List.map_map]
  exact congrArg Tempo.product hread

end Stages

/-! ### Exact arithmetic -/

theorem cropWindow?_isSome (crop : CropRect Rat) : (Transform.cropWindow? crop).isSome := by
  have hinside (x : Rat) : 0 ≤ 1 - Scalar.clamp 0.01 1 x := by
    have hleast : (0.01 : Rat) ≤ 1 := by norm_num
    unfold Scalar.clamp
    split
    · exact sub_nonneg.mpr hleast
    · split
      · exact sub_nonneg.mpr (le_refl _)
      · exact sub_nonneg.mpr (not_lt.mp (by assumption))
  rw [Transform.cropWindow?, if_pos ⟨hinside _, hinside _⟩]
  rfl

/-- In exact arithmetic every crop has a size. -/
theorem pictureFilters?_isSome (options : PlanOptions) (c : Clip Rat) :
    (Clip.pictureFilters? options c).isSome := by
  unfold Clip.pictureFilters?
  split
  · rfl
  · unfold Transform.filters?
    split
    · rfl
    · dsimp only
      split
      · rfl
      · rw [Option.isSome_map]
        exact cropWindow?_isSome _

variable {picks : List (Pick Rat)} {edits : List (Edit Rat)} {duration : Rat} {c : Clip Rat}

/-- Errors of the factor and of the tempo add up over the length of a clip. -/
theorem abs_lengths_sub_le {length rate factor tempo : Rat} (hlength : 0 ≤ length)
    (hfactor : |factor - 1 / rate| ≤ 1 / 20000)
    (htempo : |1 / tempo - 1 / rate| ≤ 1 / (10000 * rate)) :
    |length * factor - length / tempo| ≤ length * (1 + 2 / rate) / 20000 := by
  have hsplit : length * factor - length / tempo =
      length * ((factor - 1 / rate) - (1 / tempo - 1 / rate)) := by ring
  calc |length * factor - length / tempo|
      = length * |(factor - 1 / rate) - (1 / tempo - 1 / rate)| := by
        rw [hsplit, abs_mul, abs_of_nonneg hlength]
    _ ≤ length * (|factor - 1 / rate| + |1 / tempo - 1 / rate|) :=
        mul_le_mul_of_nonneg_left (abs_sub _ _) hlength
    _ ≤ length * (1 / 20000 + 1 / (10000 * rate)) :=
        mul_le_mul_of_nonneg_left (add_le_add hfactor htempo) hlength
    _ = length * (1 + 2 / rate) / 20000 := by
        rw [← div_div]
        ring

/-- The stages of a clip in the graph of its timeline. -/
theorem stages_of_clip {t : Timeline Rat} {k : Nat} (options : PlanOptions)
    (hc : t.clips[k]? = some c) :
    graph t options = .ok (.ofStages (stages options t)) ∧
      (Graph.ofStages (stages options t)).stages[2 * k]? =
        some (c.pictureStage k (changes options c)) ∧
      (Graph.ofStages (stages options t)).stages[2 * k + 1]? = some (c.soundStage k) := by
  have hclips : t.clips ≠ [] := List.ne_nil_of_mem (List.mem_of_getElem? hc)
  refine ⟨graph_eq hclips fun d _ => pictureFilters?_isSome options d, ?_⟩
  rw [Graph.stages_ofStages]
  exact getElem?_stages options hc

/-- Picture and sound of every clip take the same time, up to 50 microseconds for each second that
is cut out and 100 for each second that is shown. -/
theorem picture_and_sound_agree (picks : List (Pick Rat)) (edits : List (Edit Rat))
    (duration : Rat) (options : PlanOptions) (k : Nat) (c : Clip Rat)
    (hc : (Timeline.compile picks edits duration).clips[k]? = some c) :
    let t := Timeline.compile picks edits duration
    let length := c.span.stop - c.span.start
    ∃ g plan picture sound factor tempo,
      graph t options = .ok g ∧ build t options = .ok plan ∧
      plan.description = g.render Filter.print ∧
      g.stages[2 * k]? = some picture ∧ g.stages[2 * k + 1]? = some sound ∧
      stretchFactor? (picture.filters.map Filter.print) = some factor ∧
      tempoProduct (sound.filters.map Filter.print) = tempo ∧
      0 < c.rate ∧ 0 < tempo ∧
      |length * factor - length / tempo| ≤ length * (1 + 2 / c.rate) / 20000 ∧
      (length * (1 + 2 / c.rate) ≤ 2000 → |length * factor - length / tempo| ≤ 0.1) ∧
      (c.rate < 20000 → 0 < factor) := by
  intro t length
  have hmem : c ∈ t.clips := List.mem_of_getElem? hc
  have hclips : t.clips ≠ [] := List.ne_nil_of_mem hmem
  have hrate : effectiveRate c.rate = c.rate := Timeline.effectiveRate_of_mem_clips hmem
  have hpos : 0 < c.rate := hrate ▸ effectiveRate_pos c.rate
  have hinverse : (0 : Rat) < 1 / c.rate := one_div_pos.mpr hpos
  have hlength : 0 ≤ length :=
    sub_nonneg.mpr (le_of_lt (Timeline.measured_of_mem_clips hmem).forward)
  obtain ⟨hgraph, hpicture, hsound⟩ := stages_of_clip options hc
  have hfactor := stretchFactor?_pictureStage k c (changes options c)
  have hclose := Rational.abs_units_sub_le (1 / c.rate) 4
  rw [abs_of_pos hinverse] at hclose
  have htempo := Tempo.abs_inv_product_sub_le c.rate
  rw [hrate] at hfactor htempo
  generalize hprinted : ((Scalar.reading (1 / c.rate)).units 4 : Rat) / 10 ^ 4 = factor
    at hfactor hclose
  norm_num only at hclose
  have hdrift := abs_lengths_sub_le hlength hclose htempo
  refine ⟨_, _, _, _, factor, _, hgraph,
    build_eq hclips fun d _ => pictureFilters?_isSome options d, rfl, hpicture, hsound, hfactor,
    tempoProduct_soundStage k c, hpos, Tempo.product_steps_pos c.rate, hdrift, fun hshort => ?_,
    fun hslow => ?_⟩
  · norm_num only
    linarith
  · have hunit : (1 : Rat) / (2 * 10 ^ 4) < 1 / c.rate := by
      rw [div_lt_div_iff_of_pos_left one_pos (by positivity) hpos]
      norm_num only
      exact hslow
    have hunits := Rational.units_pos hunit
    rw [← hprinted]
    positivity

/-- A clip at the longest for its rate. -/
theorem picture_and_sound_agree_at_three :
    let t : Timeline Rat := Timeline.compile [] [.speed ⟨0, 1200⟩ 3] 1200
    ∃ c, t.clips[0]? = some c ∧ c.span = ⟨0, 1200⟩ ∧ c.rate = 3 ∧
      ∃ g picture sound factor tempo,
        graph t .default = .ok g ∧ g.stages[0]? = some picture ∧ g.stages[1]? = some sound ∧
        stretchFactor? (picture.filters.map Filter.print) = some factor ∧
        tempoProduct (sound.filters.map Filter.print) = tempo ∧
        |1200 * factor - 1200 / tempo| ≤ 0.1 ∧ 0 < factor := by
  intro t
  have hclip : (t.clips[0]?.map fun c => (c.span, c.rate)) = some (⟨0, 1200⟩, 3) := by
    decide +kernel
  obtain ⟨c, hc, hvalues⟩ := Option.map_eq_some_iff.mp hclip
  obtain ⟨hspan, hrate⟩ := Prod.mk.inj hvalues
  obtain ⟨g, plan, picture, sound, factor, tempo, hgraph, -, -, hpicture, hsound, hfactor, htempo,
    -, -, -, hshort, hslow⟩ := picture_and_sound_agree [] [.speed ⟨0, 1200⟩ 3] 1200 .default 0 c hc
  rw [hspan, hrate] at hshort
  rw [hrate] at hslow
  norm_num only at hshort hslow
  refine ⟨c, hc, hspan, hrate, g, picture, sound, factor, tempo, hgraph, hpicture, hsound, hfactor,
    htempo, ?_, hslow trivial⟩
  norm_num only
  exact hshort trivial

/-- Over two hours at about half speed, the picture is more than a second ahead of the sound. At a
great speed, the factor is printed as zero. -/
theorem exists_drift_and_zero_factor :
    let t (rate : Rat) : Timeline Rat := Timeline.compile [] [.speed ⟨0, 7200⟩ rate] 7200
    (∃ c, (t 0.50004).clips[0]? = some c ∧ c.span = ⟨0, 7200⟩ ∧
      ∃ g picture sound factor,
        graph (t 0.50004) .default = .ok g ∧ g.stages[0]? = some picture ∧
        g.stages[1]? = some sound ∧
        stretchFactor? (picture.filters.map Filter.print) = some factor ∧
        1 < |7200 * factor - 7200 / tempoProduct (sound.filters.map Filter.print)|) ∧
    ∃ g picture, graph (t 30000) .default = .ok g ∧ g.stages[0]? = some picture ∧
      stretchFactor? (picture.filters.map Filter.print) = some 0 := by
  intro t
  have hslow : ((t 0.50004).clips[0]?.map fun c => (c.span, c.rate)) =
      some (⟨0, 7200⟩, (0.50004 : Rat)) := by
    decide +kernel
  have hfast : ((t 30000).clips[0]?.map fun c => c.rate) = some 30000 := by
    decide +kernel
  obtain ⟨c, hc, hvalues⟩ := Option.map_eq_some_iff.mp hslow
  obtain ⟨hspan, hrate⟩ := Prod.mk.inj hvalues
  obtain ⟨d, hd, hdrate⟩ := Option.map_eq_some_iff.mp hfast
  obtain ⟨hgraph, hpicture, hsound⟩ := stages_of_clip .default hc
  obtain ⟨hdgraph, hdpicture, -⟩ := stages_of_clip .default hd
  refine ⟨⟨c, hc, hspan, _, _, _, _, hgraph, hpicture, hsound,
    stretchFactor?_pictureStage 0 c _, ?_⟩, _, _, hdgraph, hdpicture, ?_⟩
  · rw [tempoProduct_soundStage, hrate]
    decide +kernel
  · rw [stretchFactor?_pictureStage, hdrate]
    decide +kernel

end Montage.Plan
