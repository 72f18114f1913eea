import Convergence.Check
import Convergence.Proofs.Snapshot.Call
import Convergence.Proofs.Snapshot.Source

/-!
# `Convergence.Proofs.Snapshot.Refinement`: a file is as good as the document in it

Telemetry may be held in memory or in a file.  A file that holds one document at every read of a
call gives the call what the document would have given it, so that no reader, check or expectation
can tell the two apart (`call_of_steady`).  What a file has beyond a document is that it may hold
none.  Then a read fails, and is never taken for a record that is not there yet
(`call_read_of_refuses`).
-/

set_option autoImplicit false

namespace Convergence.Snapshot

open Telemetry (Item)

variable {α : Type} {s : Snapshot} {d : Document} {start : Nat}

/-- The file holds the document at every read from number `start` up to number `stop`. -/
def Steady (s : Snapshot) (d : Document) (start stop : Nat) : Prop :=
  ∀ n, start ≤ n → n < stop → (s.history n).HoldsDocument d

/-- What comes of a call on a file that stays the same comes of its document. -/
theorem call_of_steady {x : Inspection α} (h : s.Steady d start (s.call x start).2) :
    (s.call x start).1 = x.run d.source :=
  fst_call_of_forall_source_eq fun n hstart hstop => (h n hstart hstop).source_eq s.name

/-- A reader of a file that holds no document fails as the file does, and reports nothing. -/
theorem call_read_of_refuses {err : ReadError} (h : (s.history start).Refuses s.name err)
    (i : Item) : s.call i.read start = (⟨.error err, []⟩, start + 1) := by
  have hread : ∀ {τ : Type} (p : Path) (rest : Option Value → Inspection τ),
      s.call (.look p rest) start = (⟨.error err, []⟩, start + 1) := by
    intro τ p rest
    rw [call_look, h.source_eq]
  -- Every reader begins with the one look that it takes.
  cases i <;> exact hread _ _

/-- **A file is as good as its document.**  If the file holds a document at every read of a call,
each path is answered as the document answers it, and every reader, every check and every
expectation comes to the same result with the same events as on the document.  If the file holds
none, it is refused with one error, which every path is answered with, the empty one included, and
which every reader fails with. -/
theorem call_refines_document (s : Snapshot) (start : Nat) :
    (∀ d : Document,
      ((s.history start).HoldsDocument d → ∀ p,
        s.get p start = (.ok ((d.get? p).map (·.value)), start + 1)) ∧
      (∀ i : Item, s.Steady d start (s.call i.read start).2 →
        (s.call i.read start).1 = i.read.run d.source) ∧
      (∀ (e : Expectation) (c : Check), s.Steady d start (s.call (c.inspect e) start).2 →
        (s.call (c.inspect e) start).1 = (c.inspect e).run d.source) ∧
      (∀ e : Expectation, s.Steady d start (s.call e.inspect start).2 →
        (s.call e.inspect start).1 = e.inspect.run d.source)) ∧
    ((¬∃ d, (s.history start).HoldsDocument d) →
      ∃ err, (s.history start).Refuses s.name err ∧
        (∀ p, s.get p start = (.error err, start + 1)) ∧
        ∀ i : Item, s.call i.read start = (⟨.error err, []⟩, start + 1)) := by
  refine ⟨fun d => ⟨fun h p => ?_, fun _ => call_of_steady, fun _ _ => call_of_steady,
    fun _ => call_of_steady⟩, fun h => ?_⟩
  · rw [Document.map_value_get?, get, h.source_eq]
    rfl
  · obtain ⟨err, herr⟩ := (FileState.exists_refuses_iff s.name).mpr h
    refine ⟨err, herr, fun p => ?_, call_read_of_refuses herr⟩
    rw [get, herr.source_eq]

/-- The first read finds a port that is up, and from then on a directory stands under the name of
the file.  So what takes one read is answered from the document, and the next read fails, whatever
it is for. -/
theorem call_refines_document_port :
    let text := "\x7b\"otg\":\x7b\"port\":\x7b\"p1\":\x7b\"link\":\"up\"\x7d\x7d\x7d\x7d"
    let d := Document.ofValue (.object [("otg", .object [("port", .object [
      ("p1", .object [("link", .string "up")])])])])
    let s : Snapshot :=
      { name := "s.json", history := fun n => if n = 0 then .content text.toUTF8 else .directory }
    let i : Item := .port "p1"
    let e := ({} : Expectation).withPort "p1" { link := some .up }
    (s.history 0).HoldsDocument d ∧ s.get ⟨[]⟩ 0 = (.ok (some d.value), 1) ∧
      s.Steady d 0 (s.call i.read 0).2 ∧ (s.call i.read 0).1 = i.read.run d.source ∧
      s.Steady d 0 (s.call (Check.ports.inspect e) 0).2 ∧
      (s.call (Check.ports.inspect e) 0).1 = (Check.ports.inspect e).run d.source ∧
      s.Steady d 0 (s.call e.inspect 0).2 ∧ (s.call e.inspect 0).1 = e.inspect.run d.source ∧
      (¬∃ d, (s.history 1).HoldsDocument d) ∧
      ∃ err, (∀ p, s.get p 1 = (.error err, 2)) ∧
        ∀ i : Item, s.call i.read 1 = (⟨.error err, []⟩, 2) := by
  intro text d s i e
  have hholds : (s.history 0).HoldsDocument d := by
    refine ⟨text, rfl, ?_⟩
    dsimp only [text, d]
    rfl
  -- What asks the document for one path reads the file once.
  have hsteady : ∀ {β : Type} (x : Inspection β), (x.asked d.source).length = 1 →
      s.Steady d 0 (s.call x 0).2 := by
    intro β x hx
    have hanswers : s.Answers 0 (x.asked d.source) d.source := by
      intro j p hp
      obtain ⟨hj, -⟩ := List.getElem?_eq_some_iff.mp hp
      rw [hx, Nat.lt_one_iff] at hj
      rw [hj, hholds.source_eq]
    rw [call_eq_of_answers_asked hanswers, hx]
    intro n _ hn
    obtain rfl := Nat.lt_one_iff.mp hn
    exact hholds
  have hnone : ¬∃ d, (s.history 1).HoldsDocument d := by
    rintro ⟨d, text, htext, -⟩
    cases htext
  have hreader := hsteady i.read rfl
  have hcheck := hsteady (Check.ports.inspect e) rfl
  have hall := hsteady e.inspect rfl
  obtain ⟨hget, hreaders, hchecks, halls⟩ := (call_refines_document s 0).1 d
  obtain ⟨err, -, hgets, hfails⟩ := (call_refines_document s 1).2 hnone
  exact ⟨hholds, hget hholds ⟨[]⟩, hreader, hreaders i hreader, hcheck, hchecks e .ports hcheck,
    hall, halls e hall, hnone, err, hgets, hfails⟩

end Convergence.Snapshot
