import Mathlib
import Montage.Encoder.Arguments
import Montage.Proofs.Text.Words

/-! The command line of an encode, read the way the encoder reads it. The inputs it gives are the
source and the extra inputs, in order. -/
namespace Montage

/-! ### Reading -/

/-- One thing that a command line says. -/
inductive Argument
  | flag (name : String)
  | option (name value : String)
  | file (path : String)
  deriving DecidableEq

/-- An input: the options before it, and its path. -/
structure GivenInput where
  options : List (String × String)
  path : String
  deriving DecidableEq

namespace Argument

/-- The options that stand alone. -/
def flags : List String :=
  ["-y", "-hide_banner"]

def isOption (word : String) : Bool :=
  word.toList.head? = some '-'

/-- All other options take the next word as their value, whatever it is. -/
def read : List String → List Argument
  | [] => []
  | [word] => if isOption word then [flag word] else [file word]
  | word :: value :: rest =>
    if word ∈ flags then flag word :: read (value :: rest)
    else if isOption word then option word value :: read rest
    else file word :: read (value :: rest)

/-- The inputs, the first with the given options before it. An output has options of its own. -/
def inputsAfter (options : List (String × String)) : List Argument → List GivenInput
  | [] => []
  | flag _ :: rest => inputsAfter options rest
  | option name value :: rest =>
    if name = "-i" then ⟨options, value⟩ :: inputsAfter [] rest
    else inputsAfter (options ++ [(name, value)]) rest
  | file _ :: rest => inputsAfter [] rest

def inputs (words : List String) : List GivenInput :=
  inputsAfter [] (read words)

variable {word name value : String} {rest : List String}

theorem read_flag (h : name ∈ flags) (hrest : rest ≠ []) :
    read (name :: rest) = flag name :: read rest := by
  cases rest with
  | nil => exact absurd rfl hrest
  | cons value rest => rw [read, if_pos h]

theorem read_option (hflag : name ∉ flags) (hoption : isOption name = true) :
    read (name :: value :: rest) = option name value :: read rest := by
  rw [read, if_neg hflag, if_pos hoption]

theorem read_file (h : isOption word = false) : read (word :: rest) = file word :: read rest := by
  have hflag : word ∉ flags := by
    intro hmem
    have hall : ∀ name ∈ flags, isOption name = true := by decide
    rw [hall word hmem] at h
    cases h
  cases rest with
  | nil => simp [read, h]
  | cons value rest => simp [read, hflag, h]

/-! ### Options with their values -/

/-- An option and its value as two words. -/
def words (pair : String × String) : List String :=
  [pair.1, pair.2]

def ofPair (pair : String × String) : Argument :=
  option pair.1 pair.2

variable {pairs : List (String × String)}

theorem read_words (h : ∀ pair ∈ pairs, pair.1 ∉ flags ∧ isOption pair.1 = true) :
    read (pairs.flatMap words ++ rest) = pairs.map ofPair ++ read rest := by
  induction pairs with
  | nil => rfl
  | cons pair more ih =>
    obtain ⟨hflag, hoption⟩ := h pair List.mem_cons_self
    change read (pair.1 :: pair.2 :: (more.flatMap words ++ rest)) = _
    rw [read_option hflag hoption, ih fun other hmem => h other (List.mem_cons_of_mem _ hmem)]
    rfl

theorem inputsAfter_ofPair (before : List (String × String)) {rest : List Argument}
    (h : ∀ pair ∈ pairs, pair.1 ≠ "-i") :
    inputsAfter before (pairs.map ofPair ++ rest) = inputsAfter (before ++ pairs) rest := by
  induction pairs generalizing before with
  | nil => rw [List.append_nil, List.map_nil, List.nil_append]
  | cons pair more ih =>
    have hmore := ih (before ++ [pair]) fun other hmem => h other (List.mem_cons_of_mem _ hmem)
    rw [List.append_assoc] at hmore
    rw [List.map_cons, List.cons_append, ofPair, inputsAfter, if_neg (h pair List.mem_cons_self)]
    exact hmore

end Argument

open Argument (read isOption inputsAfter words ofPair)

/-! ### What an encode is given -/

theorem Path.isOption_guarded (p : Path) : isOption p.guarded.text = false := by
  rw [guarded]
  split
  · rename_i hoption
    have hrelative : p.isAbsolute = false := by
      rw [isAbsolute, hoption]
      decide
    simp [join, hrelative, isOption, endsInSlash]
  · rename_i hoption
    exact decide_eq_false hoption

/-- The options of a looped input as a command line gives them. -/
def InputMode.given : InputMode → List (String × String)
  | still seconds => [("-loop", "1"), ("-t", Scalar.seconds seconds)]
  | stream => [("-stream_loop", "-1")]

theorem InputMode.of_mem_given {mode : InputMode} {pair : String × String} (h : pair ∈ mode.given) :
    pair.1 ∉ Argument.flags ∧ isOption pair.1 = true ∧ pair.1 ≠ "-i" := by
  have hname : pair.1 ∈ ["-loop", "-t", "-stream_loop"] := by
    cases mode with
    | still seconds => rcases List.mem_pair.mp h with rfl | rfl <;> simp
    | stream => simp [List.mem_singleton.mp h]
  revert hname
  generalize pair.1 = name
  revert name
  decide

namespace ExtraInput

def given (input : ExtraInput) : GivenInput :=
  ⟨input.mode.given, input.path.guarded.text⟩

theorem arguments_eq (input : ExtraInput) : input.arguments =
    input.mode.given.flatMap words ++ ["-i", input.path.guarded.text] := by
  rw [arguments]
  cases input.mode <;> rfl

/-- An extra input as the encoder reads it. -/
def said (input : ExtraInput) : List Argument :=
  input.mode.given.map ofPair ++ [.option "-i" input.path.guarded.text]

theorem read_arguments (input : ExtraInput) (rest : List String) :
    read (input.arguments ++ rest) = input.said ++ read rest := by
  rw [arguments_eq, List.append_assoc, Argument.read_words fun pair h =>
      ⟨(InputMode.of_mem_given h).1, (InputMode.of_mem_given h).2.1⟩, said, List.append_assoc]
  exact congrArg _ (Argument.read_option (by decide) (by decide))

theorem read_all (inputs : List ExtraInput) (rest : List String) :
    read (inputs.flatMap arguments ++ rest) = inputs.flatMap said ++ read rest := by
  induction inputs with
  | nil => rfl
  | cons input more ih =>
    rw [List.flatMap_cons, List.flatMap_cons, List.append_assoc, read_arguments, ih,
      List.append_assoc]

/-- An extra input is given its own options only. -/
theorem inputsAfter_said (input : ExtraInput) (rest : List Argument) :
    inputsAfter [] (input.said ++ rest) = input.given :: inputsAfter [] rest := by
  rw [said, List.append_assoc,
    Argument.inputsAfter_ofPair [] fun pair h => (InputMode.of_mem_given h).2.2]
  rfl

theorem inputsAfter_all (inputs : List ExtraInput) (rest : List Argument) :
    inputsAfter [] (inputs.flatMap said ++ rest) = inputs.map given ++ inputsAfter [] rest := by
  induction inputs with
  | nil => rfl
  | cons input more ih =>
    rw [List.flatMap_cons, List.append_assoc, inputsAfter_said, ih]
    rfl

end ExtraInput

namespace EncodeJob

variable (settings : Settings) (job : EncodeJob)

/-- The options after the inputs. -/
def options : List (String × String) :=
  [("-filter_complex", job.description)] ++ job.outputs.map ("-map", ·) ++
    [("-c:v", settings.videoCodec), ("-b:v", settings.videoBitrate),
      ("-c:a", settings.audioCodec), ("-b:a", settings.audioBitrate), ("-pix_fmt", "yuv420p")] ++
    job.cap.toList.map fun cap => ("-t", Scalar.seconds cap)

theorem arguments_eq : job.arguments settings =
    "-y" :: "-hide_banner" :: "-i" :: job.source.guarded.text ::
      (job.extraInputs.flatMap ExtraInput.arguments ++
        ((job.options settings).flatMap words ++ [job.output.guarded.text])) := by
  have hmaps : (job.outputs.map ("-map", ·)).flatMap words = job.outputs.flatMap (["-map", ·]) := by
    rw [List.flatMap_map]
    rfl
  rw [arguments, options, List.flatMap_append, List.flatMap_append, List.flatMap_append, hmaps]
  cases job.cap <;> simp [words]

/-- No option after the inputs is taken for a flag or for an input. -/
theorem of_mem_options {pair : String × String} (h : pair ∈ job.options settings) :
    pair.1 ∉ Argument.flags ∧ isOption pair.1 = true ∧ pair.1 ≠ "-i" := by
  have hname : pair.1 ∈ ["-filter_complex", "-map", "-c:v", "-b:v", "-c:a", "-b:a", "-pix_fmt",
      "-t"] := by
    simp only [options, List.mem_append, List.mem_cons, List.mem_map, List.not_mem_nil,
      or_false] at h
    rcases h with ((rfl | ⟨_, -, rfl⟩) | rfl | rfl | rfl | rfl | rfl) | ⟨_, -, rfl⟩ <;>
      simp only [List.mem_cons, true_or, or_true]
  revert hname
  generalize pair.1 = name
  revert name
  decide

/-- All that is said before the file to write. -/
def said : List Argument :=
  [.flag "-y", .flag "-hide_banner", .option "-i" job.source.guarded.text] ++
    job.extraInputs.flatMap ExtraInput.said ++ (job.options settings).map ofPair

theorem read_arguments :
    read (job.arguments settings) = job.said settings ++ [.file job.output.guarded.text] := by
  have hoptions : read ((job.options settings).flatMap words ++ [job.output.guarded.text]) =
      (job.options settings).map ofPair ++ [.file job.output.guarded.text] := by
    rw [Argument.read_words fun pair h =>
        ⟨(job.of_mem_options settings h).1, (job.of_mem_options settings h).2.1⟩,
      Argument.read_file (Path.isOption_guarded _)]
    rfl
  rw [arguments_eq, Argument.read_flag (by decide) (by simp),
    Argument.read_flag (by decide) (by simp), Argument.read_option (by decide) (by decide),
    ExtraInput.read_all, hoptions]
  simp [said]

/-- The inputs that the encoder reads from its command line. -/
theorem inputs_arguments :
    Argument.inputs (job.arguments settings) =
      ⟨[], job.source.guarded.text⟩ :: job.extraInputs.map ExtraInput.given := by
  have hrest : inputsAfter [] ((job.options settings).map ofPair ++
      [.file job.output.guarded.text]) = [] := by
    rw [Argument.inputsAfter_ofPair [] fun pair h => (job.of_mem_options settings h).2.2]
    rfl
  rw [Argument.inputs, read_arguments, said, List.append_assoc, List.append_assoc]
  change _ :: inputsAfter [] (job.extraInputs.flatMap ExtraInput.said ++ _) = _
  rw [ExtraInput.inputsAfter_all, hrest, List.append_nil]

end EncodeJob

end Montage

/-! What the whole command line of an encode says, read from left to right: the inputs with how each
is repeated, the options, and one file to write. -/
namespace Montage

/-- How an input is repeated. The seconds are as they are written. -/
inductive Repeat
  | never
  | still (seconds : String)
  | stream
  deriving DecidableEq

namespace Repeat

/-- The repetition that the options of an input stand for, in whatever order they are given. -/
def ofOptions? (options : List (String × String)) : Option Repeat :=
  match options.lookup "-loop", options.lookup "-stream_loop", options.lookup "-t" with
  | none, none, none => some never
  | some "1", none, some seconds => some (still seconds)
  | none, some "-1", none => some stream
  | _, _, _ => none

end Repeat

def InputMode.repeats : InputMode → Repeat
  | still seconds => .still (Scalar.seconds seconds)
  | stream => .stream

theorem InputMode.ofOptions?_given (mode : InputMode) :
    Repeat.ofOptions? mode.given = some mode.repeats := by
  cases mode <;> rfl

/-- A file to write, with the options that belong to it. -/
structure GivenOutput where
  options : List (String × String)
  path : String
  deriving DecidableEq

/-- What a command line has said so far. -/
structure Understanding where
  flags : List String
  inputs : List GivenInput
  options : List (String × String)
  outputs : List GivenOutput
  /-- The options that wait for the file they belong to. -/
  pending : List (String × String)
  deriving DecidableEq

namespace Understanding

def start : Understanding :=
  ⟨[], [], [], [], []⟩

/-- The options that belong to the next file, be it an input or the output. -/
def bound : List String :=
  ["-loop", "-stream_loop", "-t"]

def step (u : Understanding) : Argument → Understanding
  | .flag name => { u with flags := u.flags ++ [name] }
  | .option name value =>
    if name = "-i" then { u with inputs := u.inputs ++ [⟨u.pending, value⟩], pending := [] }
    else if name ∈ bound then { u with pending := u.pending ++ [(name, value)] }
    else { u with options := u.options ++ [(name, value)] }
  | .file path => { u with outputs := u.outputs ++ [⟨u.pending, path⟩], pending := [] }

def ofWords (words : List String) : Understanding :=
  (Argument.read words).foldl step start

/-- The values given to an option, in order. -/
def valuesOf (u : Understanding) (name : String) : List String :=
  (u.options.filter (·.1 = name)).map (·.2)

variable {u : Understanding} {pairs : List (String × String)}

theorem step_input (u : Understanding) (path : String) :
    u.step (.option "-i" path) =
      { u with inputs := u.inputs ++ [⟨u.pending, path⟩], pending := [] } := rfl

/-- Options of the next file are kept for it. -/
theorem foldl_step_bound (h : ∀ pair ∈ pairs, pair.1 ∈ bound) :
    (pairs.map Argument.ofPair).foldl step u = { u with pending := u.pending ++ pairs } := by
  induction pairs generalizing u with
  | nil => simp
  | cons pair rest ih =>
    have hbound := h pair List.mem_cons_self
    have hinput : pair.1 ≠ "-i" := by
      intro heq
      rw [heq] at hbound
      revert hbound
      decide
    rw [List.map_cons, List.foldl_cons, ih fun other hmem => h other (List.mem_cons_of_mem _ hmem)]
    simp [Argument.ofPair, step, hinput, hbound]

theorem foldl_step_options (h : ∀ pair ∈ pairs, pair.1 ≠ "-i" ∧ pair.1 ∉ bound) :
    (pairs.map Argument.ofPair).foldl step u = { u with options := u.options ++ pairs } := by
  induction pairs generalizing u with
  | nil => simp
  | cons pair rest ih =>
    obtain ⟨hinput, hfree⟩ := h pair List.mem_cons_self
    rw [List.map_cons, List.foldl_cons, ih fun other hmem => h other (List.mem_cons_of_mem _ hmem)]
    simp [Argument.ofPair, step, hinput, hfree]

end Understanding

open Argument (read isOption words ofPair)

namespace ExtraInput

theorem bound_of_mem_given {mode : InputMode} {pair : String × String} (h : pair ∈ mode.given) :
    pair.1 ∈ Understanding.bound := by
  cases mode with
  | still seconds => rcases List.mem_pair.mp h with rfl | rfl <;> simp [Understanding.bound]
  | stream => simp [List.mem_singleton.mp h, Understanding.bound]

/-- An input takes its own options, and leaves none to the next one. -/
theorem foldl_step_said {u : Understanding} (h : u.pending = []) (input : ExtraInput) :
    input.said.foldl Understanding.step u = { u with inputs := u.inputs ++ [input.given] } := by
  rw [said, List.foldl_append, Understanding.foldl_step_bound fun pair => bound_of_mem_given,
    List.foldl_cons, List.foldl_nil, Understanding.step_input, h]
  rfl

theorem foldl_step_all {u : Understanding} (h : u.pending = []) (inputs : List ExtraInput) :
    (inputs.flatMap said).foldl Understanding.step u =
      { u with inputs := u.inputs ++ inputs.map given } := by
  induction inputs generalizing u with
  | nil => simp
  | cons input more ih =>
    rw [List.flatMap_cons, List.foldl_append, foldl_step_said h, ih]
    · simp
    · exact h

end ExtraInput

namespace EncodeJob

variable (settings : Settings) (job : EncodeJob)

/-- The options of the encode as a whole. -/
def general : List (String × String) :=
  [("-filter_complex", job.description)] ++ job.outputs.map ("-map", ·) ++
    [("-c:v", settings.videoCodec), ("-b:v", settings.videoBitrate),
      ("-c:a", settings.audioCodec), ("-b:a", settings.audioBitrate), ("-pix_fmt", "yuv420p")]

/-- The options of the output file. -/
def capping : List (String × String) :=
  job.cap.toList.map fun cap => ("-t", Scalar.seconds cap)

theorem options_eq : job.options settings = job.general settings ++ job.capping := rfl

theorem of_mem_general {pair : String × String} (h : pair ∈ job.general settings) :
    pair.1 ≠ "-i" ∧ pair.1 ∉ Understanding.bound := by
  have hname : pair.1 ∈
      ["-filter_complex", "-map", "-c:v", "-b:v", "-c:a", "-b:a", "-pix_fmt"] := by
    simp only [general, List.mem_append, List.mem_cons, List.mem_map, List.not_mem_nil,
      or_false] at h
    rcases h with (rfl | ⟨_, -, rfl⟩) | rfl | rfl | rfl | rfl | rfl <;>
      simp only [List.mem_cons, true_or, or_true]
  revert hname
  generalize pair.1 = name
  revert name
  decide

theorem bound_of_mem_capping {pair : String × String} (h : pair ∈ job.capping) :
    pair.1 ∈ Understanding.bound := by
  obtain ⟨cap, -, rfl⟩ := List.mem_map.mp h
  simp [Understanding.bound]

theorem file_notMem_said (path : String) : .file path ∉ job.said settings := by
  simp [said, ExtraInput.said, ofPair]

/-- What the encoder understands is what the job asks for. -/
theorem ofWords_arguments :
    Understanding.ofWords (job.arguments settings) =
      { flags := Argument.flags
        inputs := ⟨[], job.source.guarded.text⟩ :: job.extraInputs.map ExtraInput.given
        options := job.general settings
        outputs := [⟨job.capping, job.output.guarded.text⟩]
        pending := [] } := by
  have hstart : List.foldl Understanding.step .start
      [.flag "-y", .flag "-hide_banner", .option "-i" job.source.guarded.text] =
        ⟨Argument.flags, [⟨[], job.source.guarded.text⟩], [], [], []⟩ := rfl
  rw [Understanding.ofWords, read_arguments, said, options_eq, List.map_append,
    List.foldl_append, List.foldl_append, List.foldl_append, List.foldl_append, hstart,
    ExtraInput.foldl_step_all rfl,
    Understanding.foldl_step_options fun pair => job.of_mem_general settings,
    Understanding.foldl_step_bound fun pair => job.bound_of_mem_capping]
  simp [Understanding.step]

theorem valuesOf_graph :
    (Understanding.ofWords (job.arguments settings)).valuesOf "-filter_complex" =
      [job.description] := by
  rw [ofWords_arguments, Understanding.valuesOf, general]
  simp [List.filter_map, Function.comp_def]

theorem valuesOf_map :
    (Understanding.ofWords (job.arguments settings)).valuesOf "-map" = job.outputs := by
  rw [ofWords_arguments, Understanding.valuesOf, general]
  simp [List.filter_map, Function.comp_def]

end EncodeJob

/-! ### Guarded paths -/

/-- Guarding a path leads nowhere else. -/
theorem Path.guarded_same (p : Path) : p.guarded.Same p := by
  rw [guarded]
  split
  · rename_i hoption
    have hrelative : p.isAbsolute = false := by
      rw [isAbsolute, hoption]
      decide
    have hjoin : (⟨"."⟩ : Path).join p = ⟨"./" ++ p.text⟩ := by
      simp [join, hrelative, endsInSlash]
    have hsteps : (⟨"./" ++ p.text⟩ : Path).steps = "." :: p.steps := by
      have htext : ("./" ++ p.text).toList = ['.'] ++ '/' :: p.text.toList := by simp
      have hsplit : Text.splitOn (· = '/') (['.'] ++ '/' :: p.text.toList) =
          Text.splitOn (· = '/') ['.'] ++ Text.splitOn (· = '/') p.text.toList :=
        Text.splitOn_append (by decide) _ _
      rw [steps, htext, hsplit]
      simp [steps, Text.splitOn]
    rw [hjoin]
    refine ⟨?_, ?_⟩
    · rw [hrelative]
      simp [isAbsolute]
    · rw [names, hsteps]
      simp [names]
  · exact ⟨rfl, rfl⟩

namespace EncodeJob

/-- The command line of an encode can be read in one way only. It says what to read and how often,
what to make of it, and one file to write, and no path in it is taken for an option. -/
theorem understood_arguments (settings : Settings) (job : EncodeJob) :
    let u := Understanding.ofWords (job.arguments settings)
    u.inputs.map (fun input => (Repeat.ofOptions? input.options, input.path)) =
      (some .never, job.source.guarded.text) ::
        job.extraInputs.map (fun input => (some input.mode.repeats, input.path.guarded.text)) ∧
    u.valuesOf "-filter_complex" = [job.description] ∧
    u.valuesOf "-map" = job.outputs ∧
    u.outputs = [⟨job.cap.toList.map fun cap => ("-t", Scalar.seconds cap),
      job.output.guarded.text⟩] ∧
    u.pending = [] ∧
    (∃ said, read (job.arguments settings) = said ++ [.file job.output.guarded.text] ∧
      ∀ path, .file path ∉ said) ∧
    ∀ p : Path, isOption p.guarded.text = false ∧ p.guarded.Same p := by
  intro u
  have hu : u = _ := job.ofWords_arguments settings
  refine ⟨?_, job.valuesOf_graph settings, job.valuesOf_map settings, congrArg (·.outputs) hu,
    congrArg (·.pending) hu, ?_, fun p => ⟨p.isOption_guarded, p.guarded_same⟩⟩
  · rw [hu, List.map_cons, List.map_map]
    refine congrArg _ (List.map_congr_left fun input _ => ?_)
    exact congrArg (·, input.path.guarded.text) input.mode.ofOptions?_given
  · exact ⟨job.said settings, job.read_arguments settings, job.file_notMem_said settings⟩

end EncodeJob

end Montage
