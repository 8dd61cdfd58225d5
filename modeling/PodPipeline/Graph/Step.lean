import PodPipeline.Graph.Basic
import PodPipeline.Step

/-! Steps that are joined by the links which they make and require. -/
namespace PodPipeline

/-- What a graph knows of a step. -/
structure StepNode where
  name : String
  requires : List Link := []
  creates : List Link := []
  provides : Option Link := none
deriving DecidableEq, Repr

/-- The links that are there once the step has succeeded. -/
def StepNode.makes (s : StepNode) : List Link := s.creates ++ s.provides.toList

def PodStep.node (s : PodStep) : StepNode where
  name := s.name
  requires := s.requires
  creates := s.creates
  provides := s.provides.2

section

variable (steps : List StepNode)

/-- The steps that make a link, in order, each as often as it makes it. -/
def makers (link : Link) : List (Fin steps.length) :=
  (List.finRange steps.length).flatMap fun i =>
    ((steps.get i).makes.filter (· = link)).map fun _ => i

/-- The graph in which an edge leads to each step from each maker of each link that it requires. -/
def wiring : Digraph steps.length where
  edges := (List.finRange steps.length).flatMap fun j =>
    (steps.get j).requires.flatMap fun link => (makers steps link).map fun i => (i, j)

end

/-- Steps, and an order in which they can be run. -/
structure StepGraph where
  steps : List StepNode
  order : List (Fin steps.length)

namespace StepGraph

/-- Joins steps by their links. Steps that wait for each other in a circle, or for themselves,
cannot be ordered. -/
def build (steps : List StepNode) : Except StepError StepGraph :=
  match (wiring steps).topologicalOrder with
  | .ok order => .ok ⟨steps, order⟩
  | .error i => .error
    (.cycle ("cycle detected in step graph involving step '" ++ (steps.get i).name ++ "'"))

/-- The steps, each after the makers of what it requires. -/
def ordered (g : StepGraph) : List StepNode := g.order.map g.steps.get

def orderedNames (g : StepGraph) : List String := g.ordered.map (·.name)

/-- The names of the makers of what the first step called `name` requires, the newest edge first. -/
def dependenciesOf (g : StepGraph) (name : String) : List String :=
  match (List.finRange g.steps.length).find? fun i => (g.steps.get i).name = name with
  | some i => ((wiring g.steps).predecessors i).map fun j => (g.steps.get j).name
  | none => []

/-- The required links that no step makes, in ascending order. -/
def external (g : StepGraph) : List Link :=
  Link.sortedSet ((g.steps.flatMap (·.requires)).filter fun l => (makers g.steps l).isEmpty)

def size (g : StepGraph) : Nat := g.steps.length

def isEmpty (g : StepGraph) : Bool := g.steps.isEmpty

def debug (g : StepGraph) : String :=
  Text.record "StepGraph"
    [("order", Text.sequence (g.orderedNames.map Text.quoted)),
      ("external", Text.braced (g.external.map Link.debug))] false

end StepGraph

end PodPipeline
