/-!
# `Convergence.Path`: where telemetry is found

A path is a list of keys.  The keys stay apart because names of interfaces such as `Ethernet1/1`
hold the character that separates keys in the written form.
-/

set_option autoImplicit false

namespace Convergence

/-- The place of a subtree: the keys that lead to it, outermost first. -/
structure Path where
  keys : List String
  deriving DecidableEq, Repr

namespace Path

/-- Paths are compared key by key. -/
instance : Ord Path := ⟨fun p q => compare p.keys q.keys⟩

/-- The path one key further down. -/
def push (p : Path) (key : String) : Path := ⟨p.keys ++ [key]⟩

/-- The written form: a slash before each key. -/
def text (p : Path) : String := p.keys.foldl (fun s key => s ++ "/" ++ key) ""

/-- State that the traffic generator reports. -/
def generator (kind name : String) : Path := ⟨["otg", kind, name]⟩

/-- State that the device under test reports. -/
def device (kind name : String) : Path := ⟨["dut", kind, name]⟩

end Path

end Convergence
