/-!
Filter stages: chains of filters between labelled pads. What a filter is, and how it is written, is
left open.
-/

namespace Montage

structure Stage (φ : Type) where
  inputs : List String
  filters : List φ
  outputs : List String
  deriving DecidableEq

namespace Stage

variable {φ : Type}

def single (input : String) (filter : φ) (output : String) : Stage φ :=
  ⟨[input], [filter], [output]⟩

def pad (label : String) : String :=
  "[" ++ label ++ "]"

/-- The chain between its pads, filters apart by commas. -/
def render (print : φ → String) (s : Stage φ) : String :=
  String.join (s.inputs.map pad) ++ ",".intercalate (s.filters.map print) ++
    String.join (s.outputs.map pad)

end Stage

end Montage

/-!
Graphs of filter stages. A link runs from the stage that makes a pad to every later stage that reads
it; a pad that no stage makes belongs to an input of the encoder.
-/

namespace Montage

/-- A pad carried from one stage to another, both by number. -/
structure Link where
  source : Nat
  target : Nat
  label : String
  deriving DecidableEq

structure Graph (φ : Type) where
  stages : List (Stage φ)
  links : List Link
  /-- Which stage made a label, the newest first. -/
  makers : List (String × Nat)
  deriving DecidableEq

namespace Graph

variable {φ : Type}

def empty : Graph φ :=
  ⟨[], [], []⟩

/-- The links into a stage, one for each input that an earlier stage makes. -/
def wires (makers : List (String × Nat)) (target : Nat) (inputs : List String) : List Link :=
  inputs.filterMap fun label => (makers.lookup label).map fun source => ⟨source, target, label⟩

/-- The graph with one more stage, wired to the last makers of its inputs. -/
def addStage (g : Graph φ) (stage : Stage φ) : Graph φ :=
  let index := g.stages.length
  { stages := g.stages ++ [stage]
    links := g.links ++ wires g.makers index stage.inputs
    makers := stage.outputs.foldl (fun makers label => (label, index) :: makers) g.makers }

def ofStages (stages : List (Stage φ)) : Graph φ :=
  stages.foldl addStage empty

/-- The graph with a link that its pads do not call for. -/
def addLink (g : Graph φ) (link : Link) : Graph φ :=
  { g with links := g.links ++ [link] }

/-- The labels that links carry away from a stage. -/
def consumed (g : Graph φ) (index : Nat) : List String :=
  (g.links.filter (·.source = index)).map (·.label)

/-- The pads that no link carries on, in the order of stages and outputs. -/
def terminalPads (g : Graph φ) : List String :=
  g.stages.zipIdx.flatMap fun (stage, index) =>
    stage.outputs.filter fun label => !(g.consumed index).contains label

/-- The stages among `alive` that a link from one of them reaches. -/
def reached (links : List Link) (alive : List Nat) : List Nat :=
  alive.filter fun index => links.any fun l => l.target = index && alive.contains l.source

/-- What is left when stages that nothing left reaches are taken away, `rounds` times over. -/
def remaining (links : List Link) : Nat → List Nat → List Nat
  | 0, alive => alive
  | rounds + 1, alive =>
    if alive.isEmpty then [] else remaining links rounds (reached links alive)

/-- Every stage can be put after all that it reads from. -/
def isAcyclic (g : Graph φ) : Bool :=
  (remaining g.links g.stages.length (List.range g.stages.length)).isEmpty

/-- The rendered stages in the order they were added. -/
def render (print : φ → String) (g : Graph φ) : String :=
  ";".intercalate (g.stages.map (Stage.render print))

end Graph

end Montage
