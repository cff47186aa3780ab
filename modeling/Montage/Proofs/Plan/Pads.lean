import Mathlib
import Montage.Plan.Build
import Montage.Proofs.Number.Decimal

/-! The pads of a plan. Without its digits a label says what kind of pad it is, and its digits say
which one, so that no two pads share a label. -/
namespace Montage.Plan

inductive Pad
  | inputPicture (input : Nat)
  | inputSound (input : Nat)
  | clipPicture (clip : Nat)
  | clipSound (clip : Nat)
  | joinedPicture
  | joinedSound
  | fadedPicture (fade : Nat)
  | fadedSound (fade : Nat)
  | image (caption : Nat)
  | captioned (caption : Nat)
  | music
  | mixed
  | picture
  | sound
  deriving DecidableEq

namespace Pad

def label : Pad → String
  | inputPicture k => Decimal.natural k ++ ":v"
  | inputSound k => Decimal.natural k ++ ":a"
  | clipPicture i => "v" ++ Decimal.natural i
  | clipSound i => "a" ++ Decimal.natural i
  | joinedPicture => "concatv"
  | joinedSound => "concata"
  | fadedPicture i => "vfade" ++ Decimal.natural i
  | fadedSound i => "afade" ++ Decimal.natural i
  | image i => "txt" ++ Decimal.natural i
  | captioned i => "vtxt" ++ Decimal.natural i
  | music => "bgm"
  | mixed => "amix"
  | picture => "outv"
  | sound => "outa"

/-- What is left of the label without its digits. -/
def letters : Pad → List Char
  | inputPicture _ => [':', 'v']
  | inputSound _ => [':', 'a']
  | clipPicture _ => ['v']
  | clipSound _ => ['a']
  | joinedPicture => ['c', 'o', 'n', 'c', 'a', 't', 'v']
  | joinedSound => ['c', 'o', 'n', 'c', 'a', 't', 'a']
  | fadedPicture _ => ['v', 'f', 'a', 'd', 'e']
  | fadedSound _ => ['a', 'f', 'a', 'd', 'e']
  | image _ => ['t', 'x', 't']
  | captioned _ => ['v', 't', 'x', 't']
  | music => ['b', 'g', 'm']
  | mixed => ['a', 'm', 'i', 'x']
  | picture => ['o', 'u', 't', 'v']
  | sound => ['o', 'u', 't', 'a']

def digits : Pad → List Char
  | inputPicture k | inputSound k | clipPicture k | clipSound k | fadedPicture k | fadedSound k
  | image k | captioned k => Decimal.digits k
  | _ => []

theorem filter_digits (n : Nat) : (Decimal.digits n).filter Char.isDigit = Decimal.digits n :=
  List.filter_eq_self.mpr fun _ hc => Decimal.isDigit_of_mem_digits hc

theorem filter_not_digits (n : Nat) : (Decimal.digits n).filter (!Char.isDigit ·) = [] :=
  List.filter_eq_nil_iff.mpr fun _ hc => by simp [Decimal.isDigit_of_mem_digits hc]

theorem letters_label (p : Pad) : p.label.toList.filter (!Char.isDigit ·) = p.letters := by
  cases p <;> simp [label, letters, Decimal.natural, filter_not_digits]

theorem digits_label (p : Pad) : p.label.toList.filter Char.isDigit = p.digits := by
  cases p <;> simp [label, digits, Decimal.natural, filter_digits]

theorem label_injective : Function.Injective label := by
  intro p q h
  have hletters : p.letters = q.letters := by rw [← letters_label, h, letters_label]
  have hdigits : p.digits = q.digits := by rw [← digits_label, h, digits_label]
  cases p <;> cases q <;> simp_all [letters, digits, Decimal.digits_injective.eq_iff]

@[simp] theorem label_inj {p q : Pad} : p.label = q.label ↔ p = q :=
  label_injective.eq_iff

theorem label_inputPicture_zero : (inputPicture 0).label = "0:v" := by
  rw [label, Decimal.natural, Decimal.digits]
  decide

theorem label_inputSound_zero : (inputSound 0).label = "0:a" := by
  rw [label, Decimal.natural, Decimal.digits]
  decide

/-- Two pads for each number from `first` on. -/
def pairs (f g : Nat → Pad) (first count : Nat) : List Pad :=
  (List.range' first count).flatMap fun index => [f index, g index]

theorem pairs_succ (f g : Nat → Pad) (first count : Nat) :
    pairs f g first (count + 1) = f first :: g first :: pairs f g (first + 1) count := rfl

@[grind →] theorem mem_pairs {p : Pad} {f g : Nat → Pad} {first count : Nat}
    (h : p ∈ pairs f g first count) : ∃ index, p = f index ∨ p = g index := by
  obtain ⟨index, -, hp⟩ := List.mem_flatMap.mp h
  exact ⟨index, List.mem_pair.mp hp⟩

theorem nodup_pairs {f g : Nat → Pad} (hf : Function.Injective f) (hg : Function.Injective g)
    (hfg : ∀ i j, f i ≠ g j) (first count : Nat) : (pairs f g first count).Nodup := by
  rw [pairs, List.nodup_flatMap]
  have hnumbers : (List.range' first count).Nodup := List.nodup_range'
  refine ⟨fun i _ => by simp [hfg], hnumbers.imp fun {i j} hij => ?_⟩
  simp [Function.onFun, List.Disjoint, hf.eq_iff, hg.eq_iff, hfg, (hfg _ _).symm, hij]

end Pad

/-- The label belongs to an input of the encoder. -/
def IsInputPad (label : String) : Prop :=
  ∃ k, label = Decimal.natural k ++ ":v" ∨ label = Decimal.natural k ++ ":a"

theorem isInputPad_label_iff {p : Pad} :
    IsInputPad p.label ↔ ∃ k, p = .inputPicture k ∨ p = .inputSound k :=
  exists_congr fun k => or_congr (Pad.label_inj (q := .inputPicture k))
    (Pad.label_inj (q := .inputSound k))

end Montage.Plan
