import Montage.CommandLine.Run
import Montage.Proofs.Disk.Entries
import Montage.Proofs.Filter.FrameSize
import Montage.Proofs.Json.Printed
import Montage.Proofs.Json.Sorted
import Montage.Proofs.Text.Utf8

/-! Edits read back from what is printed of them. -/
namespace Montage

open Json (sorted)

variable {α : Type} [Scalar α]

/-! ### Finite edits -/

/-- All numbers of the change are finite. -/
def Transform.IsFinite (t : Transform α) : Prop :=
  Scalar.isFinite t.scale ∧ Scalar.isFinite t.x ∧ Scalar.isFinite t.y ∧ Scalar.isFinite t.rotate ∧
    ∀ crop ∈ t.crop, crop.IsFinite

instance (t : Transform α) : Decidable t.IsFinite :=
  inferInstanceAs (Decidable (_ ∧ _))

namespace Edit

/-- The numbers of an edit beside its window are finite. -/
def HasFiniteContent : Edit α → Prop
  | speed _ rate => Scalar.isFinite rate
  | volume _ level => Scalar.isFinite level
  | transform _ change => change.IsFinite
  | music _ level => Scalar.isFinite level
  | _ => True

instance (e : Edit α) : Decidable e.HasFiniteContent :=
  match e with
  | split .. | delete .. | text .. | fade .. => isTrue trivial
  | speed _ rate => inferInstanceAs (Decidable (Scalar.isFinite rate = true))
  | volume _ level => inferInstanceAs (Decidable (Scalar.isFinite level = true))
  | transform _ change => inferInstanceAs (Decidable change.IsFinite)
  | music _ level => inferInstanceAs (Decidable (Scalar.isFinite level = true))

/-- All numbers of the edit are finite. -/
def IsFinite (e : Edit α) : Prop :=
  (∀ span ∈ e.span?, Scalar.isFinite span.start ∧ Scalar.isFinite span.stop) ∧ e.HasFiniteContent

instance (e : Edit α) : Decidable e.IsFinite :=
  inferInstanceAs (Decidable (_ ∧ _))

end Edit

/-! ### Single values -/

namespace Json

variable {x : Binary64}

theorem number?_ofReal (h : Scalar.isFinite x = true) : (ofReal x).number? = some x := by
  cases x with
  | finite negative units hunits => rfl
  | nan negative => cases h
  | infinite negative => cases h

theorem depth_ofReal (x : Binary64) : (ofReal x).depth = 0 := by
  cases x <;> rfl

end Json

theorem Agent.number?_ofReal {x : Binary64} (h : Scalar.isFinite x = true) :
    Agent.number? (.ofReal x) = some x := by
  cases x with
  | finite negative units hunits => rfl
  | nan negative => cases h
  | infinite negative => cases h

theorem CropRect.ofJson?_toJson {c : CropRect Binary64} (h : c.IsFinite) :
    ofJson? c.toJson = some c := by
  obtain ⟨hx, hy, hwidth, hheight⟩ := h
  have hfields : ofJson? c.toJson = (do
      some
        { x := ← (Json.ofReal c.x).number?
          y := ← (Json.ofReal c.y).number?
          width := ← (Json.ofReal c.width).number?
          height := ← (Json.ofReal c.height).number? }) := rfl
  rw [hfields, Json.number?_ofReal hx, Json.number?_ofReal hy, Json.number?_ofReal hwidth,
    Json.number?_ofReal hheight]
  rfl

theorem Transform.ofJson?_toJson {t : Transform Binary64} (h : t.IsFinite) :
    ofJson? t.toJson = some t := by
  obtain ⟨scale, x, y, rotate, flipX, flipY, crop⟩ := t
  obtain ⟨hscale, hx, hy, hrotate, hcrop⟩ := h
  have hfields : ofJson? (toJson ⟨scale, x, y, rotate, flipX, flipY, crop⟩) = (do
      some
        { scale := ← (Json.ofReal scale).number?
          x := ← (Json.ofReal x).number?
          y := ← (Json.ofReal y).number?
          rotate := ← (Json.ofReal rotate).number?
          flipX := flipX
          flipY := flipY
          crop := ← match crop with
            | none => some none
            | some crop => (CropRect.ofJson? crop.toJson).map some }) := by
    cases crop <;> rfl
  rw [hfields, Json.number?_ofReal hscale, Json.number?_ofReal hx, Json.number?_ofReal hy,
    Json.number?_ofReal hrotate]
  cases crop with
  | none => rfl
  | some crop =>
    dsimp only
    rw [CropRect.ofJson?_toJson (hcrop crop rfl)]
    rfl

/-! ### Edits -/

theorem Text.word_name (k : EditKind) : Text.word k.name = k.name := by
  cases k <;> decide +kernel

theorem TextPosition.parse?_name (p : TextPosition) : parse? p.name = some p := by
  cases p <;> decide +kernel

theorem FadeDirection.parse?_name (d : FadeDirection) : parse? d.name = some d := by
  cases d <;> decide +kernel

namespace Agent

variable {e : Edit Binary64} {span : Span Binary64}

theorem textField?_type (e : Edit Binary64) : textField? ["type"] e.toJson = some e.kind.name := by
  cases e <;> rfl

theorem numberField?_window (h : span ∈ e.span?) :
    numberField? "start" e.toJson = number? (.ofReal span.start) ∧
      numberField? "end" e.toJson = number? (.ofReal span.stop) := by
  cases e <;> cases h <;> exact ⟨rfl, rfl⟩

theorem span?_toJson (he : e.IsFinite) (h : span ∈ e.span?) : span? e.toJson = some span := by
  obtain ⟨hstart, hstop⟩ := numberField?_window h
  obtain ⟨hfirst, hlast⟩ := he.1 span h
  rw [span?, hstart, hstop, number?_ofReal hfirst, number?_ofReal hlast]
  rfl

/-- An edit is read back from its fields. -/
theorem edit?_toJson (h : e.IsFinite) : edit? e.toJson = some e := by
  have hspan : ∀ span ∈ e.span?, span? e.toJson = some span := fun span => span?_toJson h
  unfold edit?
  rw [textField?_type, Option.bind_eq_bind, Option.bind_some, Text.word_name]
  obtain ⟨hwindow, hcontent⟩ := h
  cases e with
  | split span =>
    obtain ⟨hstart, hstop⟩ := hwindow span rfl
    have hfirst : numberField? "start" (Edit.split span).toJson = some span.start :=
      number?_ofReal hstart
    have hlast : numberField? "end" (Edit.split span).toJson = some span.stop :=
      number?_ofReal hstop
    simp only [Edit.kind, EditKind.name, hfirst, hlast]
    rfl
  | delete span => exact congrArg (Option.map Edit.delete) (hspan span rfl)
  | speed span rate =>
    have hrate : numberField? "rate" (Edit.speed span rate).toJson = some rate :=
      number?_ofReal hcontent
    simp only [Edit.kind, EditKind.name, hspan span rfl, hrate]
    rfl
  | text span words position =>
    simp only [Edit.kind, EditKind.name, hspan span rfl]
    have hwords : textField? ["text", "content"] (Edit.text span words position).toJson =
      some words := rfl
    have hposition : textField? ["position"] (Edit.text span words position).toJson =
      some position.name := rfl
    rw [hwords, hposition, Option.bind_some, TextPosition.parse?_name]
    rfl
  | fade span direction =>
    have hdirection : textField? ["direction"] (Edit.fade span direction).toJson =
      some direction.name := rfl
    simp only [Edit.kind, EditKind.name, hspan span rfl, hdirection, Option.bind_some,
      FadeDirection.parse?_name]
    rfl
  | volume span level =>
    have hlevel : numberField? "volume" (Edit.volume span level).toJson = some level :=
      number?_ofReal hcontent
    simp only [Edit.kind, EditKind.name, hspan span rfl, hlevel]
    rfl
  | transform span change =>
    have hchange : transform? (Edit.transform span change).toJson = some change :=
      Transform.ofJson?_toJson hcontent
    simp only [Edit.kind, EditKind.name, hspan span rfl, hchange]
    rfl
  | music keywords level =>
    have hlevel : numberField? "volume" (Edit.music keywords level).toJson = some level :=
      number?_ofReal hcontent
    have hkeywords : textField? ["keywords", "query"] (Edit.music keywords level).toJson =
      some keywords := rfl
    simp only [Edit.kind, EditKind.name, hlevel, hkeywords]
    rfl

end Agent

/-! ### Sorted fields -/

theorem CropRect.ofJson?_sorted (j : Json) : ofJson? j.sorted = ofJson? j := by
  rw [ofJson?, ofJson?, Json.members?_sorted]
  cases j.members? ["x", "y", "width", "height"] with
  | none => rfl
  | some m => simp only [Option.map_some, Option.bind_eq_bind, Option.bind_some,
      m.required_sorted _ Json.number?_sorted]

theorem Transform.ofJson?_sorted (j : Json) : ofJson? j.sorted = ofJson? j := by
  rw [ofJson?, ofJson?, Json.members?_sorted]
  cases j.members? ["scale", "x", "y", "rotate", "flipX", "flipY", "crop"] with
  | none => rfl
  | some m => simp only [Option.map_some, Option.bind_eq_bind, Option.bind_some,
      m.withDefault_sorted _ _ Json.number?_sorted, m.withDefault_sorted _ _ Json.bool?_sorted,
      m.optionalWithDefault_sorted _ CropRect.ofJson?_sorted]

namespace Agent

theorem number?_sorted (j : Json) : number? j.sorted = number? j := by
  cases j <;> rfl

theorem bind_field?_sorted {β : Type} {read : Json → Option β}
    (hread : ∀ j : Json, read j.sorted = read j) (name : String) (j : Json) :
    (j.sorted.field? name).bind read = (j.field? name).bind read := by
  rw [Json.field?_sorted, Option.bind_map]
  exact congrArg (j.field? name).bind (funext hread)

theorem numberField?_sorted (name : String) (j : Json) :
    numberField? name j.sorted = numberField? name j :=
  bind_field?_sorted number?_sorted name j

theorem textField?_sorted (names : List String) (j : Json) :
    textField? names j.sorted = textField? names j :=
  congrArg names.findSome? (funext fun name => bind_field?_sorted Json.string?_sorted name j)

theorem span?_sorted (j : Json) : span? j.sorted = span? j := by
  simp only [span?, numberField?_sorted]

theorem transform?_sorted (j : Json) : transform? j.sorted = transform? j := by
  rw [transform?, transform?, Json.field?_sorted]
  cases j.field? "transform" with
  | none => rfl
  | some change => exact Transform.ofJson?_sorted change

/-- An edit is read by the names of its fields, in whichever order they are. -/
theorem edit?_sorted (j : Json) : edit? j.sorted = edit? j := by
  simp only [edit?, textField?_sorted, numberField?_sorted, span?_sorted, transform?_sorted]

end Agent

/-! ### Replies -/

namespace Json

variable {items : List Json} {fields : List (String × Json)} {d : Nat}

theorem depthItems_le (h : ∀ j ∈ items, depth j ≤ d) : depthItems items ≤ d := by
  induction items with
  | nil => exact Nat.zero_le d
  | cons j items ih =>
    obtain ⟨hj, hitems⟩ := List.forall_mem_cons.mp h
    exact Nat.max_le.mpr ⟨hj, ih hitems⟩

theorem depth_array_map_le {β : Type} {write : β → Json} (h : ∀ b, (write b).depth ≤ d)
    (bs : List β) : (Json.array (bs.map write)).depth ≤ d + 1 := by
  refine Nat.succ_le_succ (depthItems_le ?_)
  intro j hj
  obtain ⟨b, -, rfl⟩ := List.mem_map.mp hj
  exact h b

theorem depthFields_append (before after : List (String × Json)) :
    depthFields (before ++ after) = max (depthFields before) (depthFields after) := by
  induction before with
  | nil => exact (Nat.zero_max _).symm
  | cons field before ih =>
    obtain ⟨name, j⟩ := field
    rw [List.cons_append, depthFields, depthFields, ih, Nat.max_assoc]

end Json

theorem CropRect.depth_toJson (c : CropRect Binary64) : c.toJson.depth = 1 := by
  simp only [toJson, Json.depth, Json.depthFields, Json.depth_ofReal, Nat.max_zero]

theorem Transform.depth_toJson_le (t : Transform Binary64) : t.toJson.depth ≤ 2 := by
  rw [toJson, Json.depth, Json.depthFields_append]
  simp only [Json.depthFields, Json.depth_ofReal, Json.depth, Nat.max_zero, Nat.zero_max]
  cases t.crop with
  | none => exact Nat.le_succ 1
  | some crop =>
    simp only [Option.toList_some, List.map_cons, List.map_nil, Json.depthFields,
      CropRect.depth_toJson, Nat.max_zero]
    exact Nat.le_refl 2

theorem Edit.depth_toJson_le (e : Edit Binary64) : e.toJson.depth ≤ 3 := by
  rw [toJson, Json.depth, Json.depthFields, Json.depthFields_append]
  have hspan : ∀ span, Json.depthFields (spanFields span) = 0 := by
    intro span
    simp only [spanFields, Json.depthFields, Json.depth_ofReal, Nat.max_zero]
  have hwindow : Json.depthFields (e.span?.toList.flatMap spanFields) = 0 := by
    cases e with
    | music keywords level => rfl
    | _ span => exact (congrArg Json.depthFields (List.append_nil _)).trans (hspan span)
  have hown : Json.depthFields e.ownFields ≤ 2 := by
    cases e with
    | transform span change =>
      exact Nat.max_le.mpr ⟨change.depth_toJson_le, Nat.zero_le 2⟩
    | _ => simp only [ownFields, Json.depthFields, Json.depth, Json.depth_ofReal]; decide
  have hkind : (Json.string e.kind.name).depth = 0 := rfl
  omega

theorem Event.depth_toJson (e : Event Binary64) : e.toJson.depth = 1 := by
  simp only [toJson, Json.depth, Json.depthFields, Json.depth_ofReal, Nat.max_zero]

theorem Step.depth_toJson (s : Step) : s.toJson.depth = 1 :=
  rfl

theorem Segment.depth_toJson (s : Segment Binary64) : s.toJson.depth = 2 := by
  simp only [toJson, fields, Tags.toJson, Json.depth, Json.depthFields, Json.depth_ofReal]
  rfl

theorem Keyframe.depth_toJson (k : Keyframe Binary64) : k.toJson.depth = 1 := by
  simp only [toJson, Json.depth, Json.depthFields, Json.depth_ofReal, Nat.max_zero]

/-- A reply is nested far less deep than what can be read. -/
theorem Reply.depth_toJson_le (r : Reply Binary64) : r.toJson.depth ≤ 5 := by
  have hsegments := Json.depth_array_map_le (fun s => (Segment.depth_toJson s).le)
    r.features.segments
  have hkeyframes := Json.depth_array_map_le (fun k => (Keyframe.depth_toJson k).le)
    r.features.keyframes
  have hevents := Json.depth_array_map_le (fun e => (Event.depth_toJson e).le) r.events
  have hedits := Json.depth_array_map_le Edit.depth_toJson_le r.edits
  have hsteps := Json.depth_array_map_le (fun s => (Step.depth_toJson s).le) r.steps
  have hsummary : (Json.ofOption Json.string r.summary).depth = 0 := by
    cases r.summary <;> rfl
  rw [toJson, Json.depth, Json.depthFields_append, Features.fields]
  simp only [Json.depthFields, Json.depth_ofReal, hsummary, Json.ofNat]
  simp only [Json.depth] at *
  omega

namespace CommandLine

variable {disk : Disk} {path : Path} {r : Reply Binary64}

theorem itemsOf_sorted (name : String) (j : Json) :
    itemsOf name j.sorted = (itemsOf name j).map sorted := by
  have hfield : ((j.sorted.field? name).bind Json.array?).getD [] =
      (((j.field? name).bind Json.array?).getD []).map sorted := by
    rw [Json.field?_sorted, Option.bind_map]
    cases j.field? name with
    | none => rfl
    | some found =>
      rw [Option.bind_some, Option.bind_some, Function.comp_apply, Json.array?_sorted]
      cases found.array? <;> rfl
  cases j with
  | array items => exact Json.sortedItems_eq_map items
  | object fields => exact hfield
  | null => rfl
  | bool b => rfl
  | integer n => rfl
  | real x => rfl
  | string s => rfl

theorem itemsOf_toJson (r : Reply Binary64) : itemsOf "edits" r.toJson = r.edits.map Edit.toJson :=
  rfl

theorem map_edit?_itemsOf (h : ∀ e ∈ r.edits, e.IsFinite) :
    (itemsOf "edits" r.toJson.sorted).map Agent.edit? = r.edits.map some := by
  rw [itemsOf_sorted, itemsOf_toJson, List.map_map, List.map_map]
  refine List.map_congr_left fun e he => ?_
  exact (Agent.edit?_sorted e.toJson).trans (Agent.edit?_toJson (h e he))

theorem readJson_printed {j : Json} (hnumbers : ∀ number ∈ j.numbers, number.ReadsBack)
    (hdepth : j.depth < Json.depthLimit)
    (hfile : disk.read path = .ok (Text.encode (j.pretty 0 ++ "\n"))) :
    readJson disk path = .ok j.sorted := by
  have hparse : Json.parse? (j.pretty 0 ++ "\n") = some j.sorted := by
    rw [Json.parse?, String.toList_append, Json.parseChars?_pretty hnumbers hdepth]
    · rfl
    · exact List.forall_mem_singleton.mpr rfl
  have hread : CommandLine.readText disk path = .ok (j.pretty 0 ++ "\n") := by
    rw [CommandLine.readText, Disk.readText, hfile]
    simp only [bind, Except.bind, Text.decode?_encode]
  rw [readJson, hread]
  simp only [Except.bind, bind, hparse]

theorem exists_of_bind_eq_ok {ε β γ : Type} {first : Except ε β} {next : β → Except ε γ} {c : γ}
    (h : first >>= next = .ok c) : ∃ b, first = .ok b ∧ next b = .ok c := by
  cases first with
  | error e => cases h
  | ok b => exact ⟨b, rfl, h⟩

theorem eq_ok_of_toOption {ε β : Type} {result : Except ε β} {b : β}
    (h : result.toOption = some b) : result = .ok b := by
  cases result with
  | error e => cases h
  | ok c => exact congrArg Except.ok (Option.some.inj h)

/-- What is parsed is answered as the JSON of a reply to the request. -/
theorem exists_of_parse {duration : Binary64} {segments : Option Path} {answer : Json}
    (h : parse disk path duration segments = .ok answer) :
    ∃ (request : Request Binary64) (text : String) (r : Reply Binary64),
      request.duration = duration ∧ readText disk path = .ok text ∧
        request.reply? text = some r ∧ answer = r.toJson := by
  obtain ⟨text, htext, h⟩ := exists_of_bind_eq_ok h
  cases segments with
  | none =>
    dsimp only [Except.bind, bind] at h
    split at h
    · rename_i r hreply
      exact ⟨⟨duration, []⟩, text, r, rfl, htext, hreply, (Except.ok.inj h).symm⟩
    · cases h
  | some path =>
    obtain ⟨existing, -, h⟩ := exists_of_bind_eq_ok h
    dsimp only at h
    split at h
    · rename_i r hreply
      exact ⟨⟨duration, existing⟩, text, r, rfl, htext, hreply, (Except.ok.inj h).symm⟩
    · cases h

/-- A finite edit is read back from its JSON, in whichever order its fields are. What a response is
parsed into is answered as the JSON of a reply. And the edits of a reply are those that are read
from a file with what is printed of it, each of them and in their order, when the numbers that are
printed are read as they were. -/
theorem readEdits_printed :
    (∀ e : Edit Binary64, e.IsFinite →
      Agent.edit? e.toJson = some e ∧ Agent.edit? e.toJson.sorted = some e) ∧
    (∀ {disk : Disk} {response : Path} {duration : Binary64} {segments : Option Path}
      {answer : Json}, parse disk response duration segments = .ok answer →
        ∃ (request : Request Binary64) (text : String) (r : Reply Binary64),
          request.duration = duration ∧ readText disk response = .ok text ∧
            request.reply? text = some r ∧ answer = r.toJson) ∧
    ∀ (r : Reply Binary64) (disk : Disk) (path : Path), (∀ e ∈ r.edits, e.IsFinite) →
      (∀ number ∈ r.toJson.numbers, number.ReadsBack) →
      disk.read path = .ok (Text.encode (r.toJson.pretty 0 ++ "\n")) →
        (∃ j, readJson disk path = .ok j ∧
          (itemsOf "edits" j).map Agent.edit? = r.edits.map some) ∧
        readEdits disk path = .ok r.edits := by
  refine ⟨?_, exists_of_parse, ?_⟩
  · intro e he
    have hread := Agent.edit?_toJson he
    exact ⟨hread, (Agent.edit?_sorted e.toJson).trans hread⟩
  · intro r disk path hfinite hnumbers hfile
    have hdepth : r.toJson.depth < Json.depthLimit := r.depth_toJson_le.trans_lt (by decide)
    have hjson := readJson_printed hnumbers hdepth hfile
    have hitems := map_edit?_itemsOf hfinite
    refine ⟨⟨_, hjson, hitems⟩, ?_⟩
    have hedits : (itemsOf "edits" r.toJson.sorted).filterMap Agent.edit? = r.edits := by
      calc (itemsOf "edits" r.toJson.sorted).filterMap Agent.edit?
          = ((itemsOf "edits" r.toJson.sorted).map Agent.edit?).filterMap id := by
            rw [List.filterMap_map, Function.id_comp]
        _ = r.edits.filterMap some := by rw [hitems, List.filterMap_map, Function.id_comp]
        _ = r.edits := List.filterMap_some
    rw [readEdits, hjson]
    exact congrArg Except.ok hedits

/-- A turned and cropped picture, a caption with quotes in it, a fade and some music; and a response
with a cut in it. -/
theorem readEdits_printed_turned :
    let turned : Edit Binary64 :=
      .transform ⟨0.5, 2⟩ ⟨1.5, 0, 0, 90, true, false, some ⟨0.25, 0, 0.5, 1⟩⟩
    let r : Reply Binary64 :=
      ⟨.ofSegments 2 [], [], [turned, .text ⟨0, 2⟩ "a \x22b\x22" .center, .fade ⟨0, 0.5⟩ .fadeOut,
        .music "jazz" 0.3], none, []⟩
    let response := "\x7b\x22edits\x22: [\x7b\x22type\x22: \x22split\x22, \x22start\x22: 1\x7d]\x7d"
    let diskOf (text : String) : Disk := (Disk.empty []).addFile ["reply"]
      { Content.new 0o644 0 with bytes := Text.encode text }
    (Agent.edit? turned.toJson = some turned ∧ Agent.edit? turned.toJson.sorted = some turned) ∧
    (∃ answer, parse (diskOf response) ⟨"reply"⟩ 2 none = .ok answer ∧
      ∃ (request : Request Binary64) (text : String) (made : Reply Binary64),
        request.duration = 2 ∧ readText (diskOf response) ⟨"reply"⟩ = .ok text ∧
          request.reply? text = some made ∧ answer = made.toJson) ∧
    readEdits (diskOf (r.toJson.pretty 0 ++ "\n")) ⟨"reply"⟩ = .ok r.edits := by
  intro turned r response diskOf
  have hturned : turned.IsFinite := by decide +kernel
  have hfinite : ∀ e ∈ r.edits, e.IsFinite := by decide +kernel
  have hnumbers : ∀ number ∈ r.toJson.numbers, number.numeral?.isSome = true ∧
      (Json.parseChars? number.print.toList).bind Json.numeral? = number.numeral? := by
    decide +kernel
  have hparse : (parse (diskOf response) ⟨"reply"⟩ 2 none).toOption.isSome = true := by
    decide +kernel
  have hlook : ((diskOf (r.toJson.pretty 0 ++ "\n")).look ⟨"reply"⟩).toOption.map Entry.mark =
      some (.file 3) := by
    decide +kernel
  have hfile : (diskOf (r.toJson.pretty 0 ++ "\n")).read ⟨"reply"⟩ =
      .ok (Text.encode (r.toJson.pretty 0 ++ "\n")) := by
    obtain ⟨entry, hentry, hmark⟩ := Option.map_eq_some_iff.mp hlook
    obtain rfl := Entry.mark_eq_file hmark
    rw [Disk.read, eq_ok_of_toOption hentry]
    rfl
  obtain ⟨hread, hanswer, hprinted⟩ := readEdits_printed
  refine ⟨hread turned hturned, ?_, ?_⟩
  · obtain ⟨answer, hresult⟩ := Option.isSome_iff_exists.mp hparse
    exact ⟨answer, eq_ok_of_toOption hresult, hanswer (eq_ok_of_toOption hresult)⟩
  · refine (hprinted r _ _ hfinite (fun number hnumber => ?_) hfile).2
    exact .of_numeral? (hnumbers number hnumber).1 (hnumbers number hnumber).2

end CommandLine

end Montage
