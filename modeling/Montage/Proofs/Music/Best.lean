import Montage.Music.Source
import Montage.Proofs.Text.Words

/-! Which track is picked. A keyword counts for a track wherever it occurs in the name, also inside
a longer word, and the first track with the most such keywords is picked. That is the track with the
most words in common exactly as long as both counts put the tracks in the same order. -/
namespace Montage.Music

variable {score other : Path → Nat} {tracks : List Path} {track : Path}

/-! ### The first best -/

/-- The track scores more than all before it and no less than all after it. -/
def IsFirstBest (score : Path → Nat) (tracks : List Path) (track : Path) : Prop :=
  ∃ before after, tracks = before ++ track :: after ∧
    (∀ t ∈ before, score t < score track) ∧ ∀ t ∈ after, score t ≤ score track

theorem isFirstBest_singleton (score : Path → Nat) (track : Path) :
    IsFirstBest score [track] track :=
  ⟨[], [], rfl, by simp, by simp⟩

namespace IsFirstBest

theorem le (h : IsFirstBest score tracks track) {t : Path} (ht : t ∈ tracks) :
    score t ≤ score track := by
  obtain ⟨before, after, rfl, hbefore, hafter⟩ := h
  rcases List.mem_append.mp ht with ht | ht
  · exact Nat.le_of_lt (hbefore t ht)
  · rcases List.mem_cons.mp ht with rfl | ht
    · exact Nat.le_refl _
    · exact hafter t ht

/-- One more track is the first best if it scores more than the best so far. -/
theorem concat (h : IsFirstBest score tracks track) (next : Path) :
    IsFirstBest score (tracks ++ [next]) (if score track < score next then next else track) := by
  split
  · rename_i hmore
    exact ⟨tracks, [], rfl, fun t ht => Nat.lt_of_le_of_lt (h.le ht) hmore, by simp⟩
  · rename_i hless
    obtain ⟨before, after, rfl, hbefore, hafter⟩ := h
    refine ⟨before, after ++ [next], by simp, hbefore, ?_⟩
    intro t ht
    rcases List.mem_append.mp ht with ht | ht
    · exact hafter t ht
    · rw [List.mem_singleton.mp ht]
      exact Nat.le_of_not_lt hless

theorem foldl (h : IsFirstBest score tracks track) (rest : List Path) :
    IsFirstBest score (tracks ++ rest)
      (rest.foldl (fun best next => if score best < score next then next else best) track) := by
  induction rest generalizing tracks track with
  | nil => rwa [List.append_nil]
  | cons next rest ih =>
    have hrest := ih (h.concat next)
    rwa [List.append_assoc, List.singleton_append] at hrest

/-- The first best is the same for scores that put the tracks in the same order. -/
theorem congr (h : IsFirstBest score tracks track)
    (hsame : ∀ a ∈ tracks, ∀ b ∈ tracks, score a < score b ↔ other a < other b) :
    IsFirstBest other tracks track := by
  obtain ⟨before, after, rfl, hbefore, hafter⟩ := h
  have htrack : track ∈ before ++ track :: after := by simp
  refine ⟨before, after, rfl, ?_, ?_⟩
  · intro t ht
    exact (hsame t (by simp [ht]) track htrack).mp (hbefore t ht)
  · intro t ht
    rw [← Nat.not_lt, ← hsame track htrack t (by simp [ht])]
    exact Nat.not_lt.mpr (hafter t ht)

end IsFirstBest

theorem exists_best? (score : Path → Nat) (hne : tracks ≠ []) :
    ∃ track, best? score tracks = some track ∧ IsFirstBest score tracks track := by
  cases tracks with
  | nil => exact absurd rfl hne
  | cons first rest => exact ⟨_, rfl, (isFirstBest_singleton score first).foldl rest⟩

/-- Of two tracks, the second is the first best exactly if it scores more. -/
theorem isFirstBest_pair {a b : Path}
    (h : IsFirstBest other [a, b] (if score a < score b then b else a)) :
    score a < score b ↔ other a < other b := by
  have hle := h.le (t := b) (by simp)
  obtain ⟨before, after, heq, hbefore, -⟩ := h
  split at heq
  · rename_i hmore
    refine iff_of_true hmore ?_
    rw [if_pos hmore] at hbefore
    cases before with
    | nil =>
      obtain ⟨rfl, -⟩ := List.cons.inj heq
      exact absurd hmore (Nat.lt_irrefl _)
    | cons t before =>
      obtain ⟨rfl, -⟩ := List.cons.inj heq
      exact hbefore a List.mem_cons_self
  · rename_i hless
    rw [if_neg hless] at hle
    exact iff_of_false hless (Nat.not_lt.mpr hle)

/-! ### Words -/

/-- The words of the name of a track. -/
def nameWords (track : Path) : List (List Char) :=
  words (track.stem?.getD "")

/-- How many of some words are among those of the name. -/
def shared (keys : List (List Char)) (track : Path) : Nat :=
  keys.countP fun key => (nameWords track).contains key

/-- How many of some words are parts of those of the name. -/
def within (keys : List (List Char)) (track : Path) : Nat :=
  keys.countP fun key => decide (∃ word ∈ nameWords track, key <:+: word)

theorem mem_words {text : String} {word : List Char} : word ∈ words text ↔
    ∃ piece ∈ Text.splitOn (!Text.isAlphanumeric ·) text.toList,
      piece ≠ [] ∧ Text.lower piece = word := by
  simp [words, and_assoc]

theorem ne_nil_of_mem_words {text : String} {word : List Char} (h : word ∈ words text) :
    word ≠ [] := by
  obtain ⟨piece, -, hpiece, rfl⟩ := mem_words.mp h
  exact Text.lower_ne_nil hpiece

theorem isAlphanumeric_of_mem_words {text : String} (hdotted : 'İ' ∉ text.toList)
    {word : List Char} (h : word ∈ words text) : ∀ c ∈ word, Text.isAlphanumeric c = true := by
  obtain ⟨piece, hpiece, -, rfl⟩ := mem_words.mp h
  intro c hc
  refine Text.isAlphanumeric_of_mem_lowerFrom (fun d hd => ?_) ?_ [] hc
  · simpa using Text.not_isMark_of_mem_splitOn hpiece hd
  · exact fun hmem => hdotted (Text.mem_of_mem_splitOn hpiece hmem)

/-- A keyword counts for a track if it is part of a word of the name. -/
theorem hits_eq_within {keywords : String} (hdotted : 'İ' ∉ keywords.toList)
    (hsigma : 'Σ' ∉ (track.stem?.getD "").toList) :
    hits (words keywords) track = within (words keywords) track := by
  refine List.countP_congr fun key hkey => ?_
  rw [decide_eq_true_iff, Text.contains_iff_infix,
    Text.infix_lower_iff (isAlphanumeric_of_mem_words hdotted hkey) hsigma]
  constructor
  · rintro ⟨piece, hpiece, hinfix⟩
    refine ⟨_, mem_words.mpr ⟨piece, hpiece, ?_, rfl⟩, hinfix⟩
    rintro rfl
    exact ne_nil_of_mem_words hkey (List.eq_nil_of_infix_nil hinfix)
  · rintro ⟨word, hword, hinfix⟩
    obtain ⟨piece, hpiece, -, rfl⟩ := mem_words.mp hword
    exact ⟨piece, hpiece, hinfix⟩

/-- The track that is picked is the first whose name holds the most keywords, as words or as parts
of words. For any choice from some tracks it is the first with the most words in common with the
keywords exactly if both counts put those tracks in the same order. -/
theorem pick?_isFirstBest (keywords : String) (library : List Path) :
    (∀ tracks, tracks ≠ [] → ∃ track, pick? tracks keywords = some track ∧
      IsFirstBest (hits (words keywords)) tracks track) ∧
    ((∀ tracks, tracks ≠ [] → tracks ⊆ library → ∃ track, pick? tracks keywords = some track ∧
      IsFirstBest (shared (words keywords)) tracks track) ↔
      ∀ a ∈ library, ∀ b ∈ library, hits (words keywords) a < hits (words keywords) b ↔
        shared (words keywords) a < shared (words keywords) b) ∧
    ('İ' ∉ keywords.toList → ∀ track ∈ library, 'Σ' ∉ (track.stem?.getD "").toList →
      hits (words keywords) track = within (words keywords) track) := by
  have hpicked (tracks : List Path) (hne : tracks ≠ []) :=
    exists_best? (hits (words keywords)) hne
  refine ⟨hpicked, ⟨?_, ?_⟩, fun hdotted track _ hsigma => hits_eq_within hdotted hsigma⟩
  · intro hall a ha b hb
    obtain ⟨track, htrack, hbest⟩ := hall [a, b] (by simp) (by simp [ha, hb])
    obtain rfl : (if hits (words keywords) a < hits (words keywords) b then b else a) = track :=
      Option.some.inj htrack
    exact isFirstBest_pair hbest
  · intro hsame tracks hne hsubset
    obtain ⟨track, htrack, hbest⟩ := hpicked tracks hne
    exact ⟨track, htrack, hbest.congr fun a ha b hb => hsame a (hsubset ha) b (hsubset hb)⟩

theorem pick?_isFirstBest_calm :
    let library : List Path := [⟨"/m/ambient_pad.mp3"⟩, ⟨"/m/calm_piano.mp3"⟩]
    let keywords := "Calm piano loop"
    library ≠ [] ∧ 'İ' ∉ keywords.toList ∧
      (∃ track, pick? library keywords = some track ∧
        IsFirstBest (shared (words keywords)) library track) ∧
      hits (words keywords) ⟨"/m/calm_piano.mp3"⟩ =
        within (words keywords) ⟨"/m/calm_piano.mp3"⟩ := by
  intro library keywords
  obtain ⟨-, hiff, hwithin⟩ := pick?_isFirstBest keywords library
  have hne : library ≠ [] := by decide
  have hdotted : 'İ' ∉ keywords.toList := by decide +kernel
  refine ⟨hne, hdotted, hiff.mpr ?_ library hne (List.Subset.refl _),
    hwithin hdotted _ (by decide) (by decide +kernel)⟩
  decide +kernel

/-- A keyword inside a longer word counts as much as the word itself. -/
theorem exists_not_isFirstBest :
    ∃ (keywords : String) (tracks : List Path), tracks ≠ [] ∧
      ¬ ∃ track, pick? tracks keywords = some track ∧
        IsFirstBest (shared (words keywords)) tracks track := by
  refine ⟨"art", [⟨"/m/start.mp3"⟩, ⟨"/m/art.mp3"⟩], by decide, ?_⟩
  rintro ⟨track, hpick, hbest⟩
  have hfirst : pick? [⟨"/m/start.mp3"⟩, ⟨"/m/art.mp3"⟩] "art" = some ⟨"/m/start.mp3"⟩ := by
    decide +kernel
  obtain rfl := Option.some.inj (hfirst.symm.trans hpick)
  have hless := hbest.le (t := ⟨"/m/art.mp3"⟩) (by simp)
  revert hless
  decide +kernel

end Montage.Music
