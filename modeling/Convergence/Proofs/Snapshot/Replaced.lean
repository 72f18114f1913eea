import Convergence.Proofs.Check.Paths
import Convergence.Proofs.Snapshot.Call
import Convergence.Proofs.Snapshot.Source

/-!
# `Convergence.Proofs.Snapshot.Replaced`: a snapshot that is replaced during a call

Every record is a read of its own, so one answer may be put together from as many documents as there
are reads.  `Snapshot.seen` is what it is put together from: the source that answers each path as
the file did when its turn came.  Each check holds or does not hold on what its own reads have seen
(`call_inspectAll_eq_ok_true_iff`), and that is all that a yes of the whole call stands for: no
single document need satisfy the expectation (`not_forall_call_sound`).  What takes a single read is
satisfied by a single document, and so is everything if some document agrees with all that was seen.
-/

set_option autoImplicit false

namespace Convergence

namespace Snapshot

/-- What the reads from number `start` on have seen of the paths, each in its turn. -/
def seen (s : Snapshot) (start : Nat) (paths : List Path) : Source := fun p =>
  (s.history (start + paths.idxOf p)).source s.name p

variable {α : Type} {s : Snapshot} {start : Nat}

/-- It answers each of the paths as the file did, if none is read twice. -/
theorem answers_seen {paths : List Path} (h : paths.Nodup) (s : Snapshot) (start : Nat) :
    s.Answers start paths (s.seen start paths) := by
  intro j p hp
  obtain ⟨hj, rfl⟩ := List.getElem?_eq_some_iff.mp hp
  rw [seen, h.idxOf_getElem]

/-- Fewer answers are wanted of a source for fewer paths. -/
theorem Answers.of_isPrefix {paths paths' : List Path} {source : Source}
    (h : s.Answers start paths' source) (hinitial : paths <+: paths') :
    s.Answers start paths source := by
  obtain ⟨others, rfl⟩ := hinitial
  intro j p hp
  obtain ⟨hj, -⟩ := List.getElem?_eq_some_iff.mp hp
  exact h j p (by rw [List.getElem?_append_left hj, hp])

/-- A call that has an answer has found a document at every read. -/
theorem exists_holdsDocument {x : Inspection α} {a : α}
    (h : (s.call x start).1.result = .ok a) :
    ∀ n, start ≤ n → n < (s.call x start).2 → ∃ d, (s.history n).HoldsDocument d := by
  induction x generalizing start with
  | answer b =>
      intro n hstart hstop
      exact absurd hstop (Nat.not_lt.mpr hstart)
  | abort e => cases h
  | note e rest ih => exact ih h
  | look p rest ih =>
      rw [call_look] at h ⊢
      cases hread : (s.history start).source s.name p with
      | error e =>
          rw [hread] at h
          cases h
      | ok found =>
          rw [hread] at h
          obtain ⟨d, hd, -⟩ := FileState.source_eq_ok_iff.mp hread
          intro n hstart hstop
          rcases Nat.eq_or_lt_of_le hstart with rfl | hlater
          · exact ⟨d, hd⟩
          · exact ih found h n hlater hstop

/-! ### Checks -/

variable {e : Expectation}

/-- A check comes to what it comes to on what its reads have seen. -/
theorem fst_call_check (s : Snapshot) (e : Expectation) (c : Check) (start : Nat) :
    (s.call (c.inspect e) start).1 = (c.inspect e).run (s.seen start (c.paths e)) :=
  Answers.fst_call <| (answers_seen (Check.nodup_paths e c) s start).of_isPrefix
    (asks_isPrefix (Check.reads_inspect e c) s start)

/-- A check that has an answer has made all its reads. -/
theorem asks_check {c : Check} {b : Bool} (h : (s.call (c.inspect e) start).1.result = .ok b) :
    s.asks (c.inspect e) start = c.paths e ∧
      (s.call (c.inspect e) start).2 = start + (c.paths e).length := by
  have hasks := asks_eq (Check.reads_inspect e c) h
  exact ⟨hasks, by rw [snd_call, hasks, Check.paths]⟩

/-- Checks that are run in turn all hold exactly if each of them holds on what its own reads have
seen. -/
theorem call_inspectAll_eq_ok_true_iff {cs : List Check} (hcs : cs.Nodup) (start : Nat) :
    (s.call (Check.inspectAll e cs) start).1.result = .ok true ↔
      ∀ c ∈ cs, c.outcome (s.seen (start + Check.readsBefore e c cs) (c.paths e)) e = .ok true := by
  induction cs generalizing start with
  | nil => exact ⟨fun _ => nofun, fun _ => rfl⟩
  | cons c cs ih =>
      obtain ⟨hc, hcs⟩ := List.nodup_cons.mp hcs
      have hhead : (s.call (c.inspect e) start).1.result =
          c.outcome (s.seen (start + Check.readsBefore e c (c :: cs)) (c.paths e)) e := by
        rw [fst_call_check, Check.readsBefore, if_pos rfl]
        rfl
      rw [List.forall_mem_cons, ← hhead, Check.inspectAll, call_bind]
      cases hresult : (s.call (c.inspect e) start).1.result with
      | error err => simp
      | ok b =>
          cases b with
          | false => simp [call_answer, Inspection.pure_eq]
          | true =>
              -- The check that is first has made its reads when the others begin.
              have hlater : ∀ d ∈ cs, start + Check.readsBefore e d (c :: cs) =
                  (s.call (c.inspect e) start).2 + Check.readsBefore e d cs := by
                intro d hd
                have hne : c ≠ d := fun h => hc (h ▸ hd)
                rw [Check.readsBefore, if_neg hne, (asks_check hresult).2, Nat.add_assoc]
              simp only [if_true, ih hcs, true_and]
              exact forall₂_congr fun d hd => by rw [hlater d hd]

/-- Checks that all hold have asked for all their paths. -/
theorem asks_inspectAll_eq {cs : List Check}
    (h : (s.call (Check.inspectAll e cs) start).1.result = .ok true) :
    s.asks (Check.inspectAll e cs) start = cs.flatMap (Check.paths e) := by
  induction cs generalizing start with
  | nil => rfl
  | cons c cs ih =>
      rw [Check.inspectAll, call_bind] at h
      rw [Check.inspectAll, asks_bind, List.flatMap_cons]
      cases hresult : (s.call (c.inspect e) start).1.result with
      | error err =>
          rw [hresult] at h
          cases h
      | ok b =>
          rw [hresult] at h
          rw [(asks_check hresult).1, List.append_cancel_left_eq]
          cases b with
          | false => cases h
          | true => exact ih h

/-! ### One call -/

/-- A call that says yes has made all reads. -/
theorem snd_call_inspect (h : (s.call e.inspect start).1.result = .ok true) :
    (s.call e.inspect start).2 = start + e.paths.length := by
  rw [Expectation.inspect_eq] at h ⊢
  rw [snd_call, asks_inspectAll_eq h, Expectation.paths]

/-- What is said along with more and takes one read was found in one document. -/
theorem exists_outcome_of_weaker {part : Expectation} (hpart : part.Weaker e)
    (hone : part.paths.length = 1) (h : (s.call e.inspect start).1.result = .ok true) :
    ∃ n d, start ≤ n ∧ n < (s.call e.inspect start).2 ∧ (s.history n).HoldsDocument d ∧
      part.outcome d.source = .ok true := by
  obtain ⟨c, hc, p, hp, hothers⟩ := Check.exists_paths_eq_singleton hone
  -- The document is the one that the check found when it read the path.
  let n := start + Check.readsBefore e c Check.all + (c.paths e).idxOf p
  have hmem : p ∈ c.paths e := Check.paths_subset hpart c (hp ▸ List.mem_singleton_self p)
  have hstop : n < (s.call e.inspect start).2 := by
    have hlast := Check.readsBefore_add_length_le (e := e) hc
    have hindex := List.idxOf_lt_length_of_mem hmem
    rw [snd_call_inspect h, Expectation.paths]
    omega
  have hstart : start ≤ n := by omega
  obtain ⟨d, hd⟩ := exists_holdsDocument h n hstart hstop
  refine ⟨n, d, hstart, hstop, hd, ?_⟩
  rw [Expectation.inspect_eq, call_inspectAll_eq_ok_true_iff Check.nodup_all] at h
  rw [Expectation.outcome_eq_ok_true_iff_forall]
  intro c'
  have hseen := Check.outcome_of_weaker_of_ok_true hpart (h c' (Check.mem_all c'))
  rw [← hseen, Check.outcome, Check.outcome]
  refine congrArg Report.result ((Check.asksWithin_paths part c').run_eq fun q hq => ?_)
  by_cases heq : c' = c
  · rw [heq, hp, List.mem_singleton] at hq
    rw [heq, hq, seen, hd.source_eq]
  · rw [hothers c' (Check.mem_all c') heq] at hq
    cases hq

/-- **A call on a file that is replaced.**  However the file changes between the reads, a call says
yes exactly if each check says yes to what its own reads have seen.  Then every read has found a
document, and every part of the expectation that takes one read is satisfied by one of these
documents.  A source that answers each path as the read for it did, such as a document that agrees
with all that was read, leads to the report that the call has made; so does the document of a file
that is not replaced. -/
theorem call_inspect_replaced (s : Snapshot) (e : Expectation) (start : Nat) :
    ((s.call e.inspect start).1.result = .ok true ↔ ∀ c : Check,
      c.outcome (s.seen (start + Check.readsBefore e c Check.all) (c.paths e)) e = .ok true) ∧
    ((s.call e.inspect start).1.result = .ok true →
      (s.call e.inspect start).2 = start + e.paths.length ∧
      (∀ n, start ≤ n → n < (s.call e.inspect start).2 → ∃ d, (s.history n).HoldsDocument d) ∧
      ∀ part : Expectation, part.Weaker e → part.paths.length = 1 →
        ∃ n d, start ≤ n ∧ n < (s.call e.inspect start).2 ∧ (s.history n).HoldsDocument d ∧
          part.outcome d.source = .ok true) ∧
    (∀ source : Source, s.Answers start (s.asks e.inspect start) source →
      (s.call e.inspect start).1 = e.inspect.run source) ∧
    ∀ d : Document,
      (∀ n, start ≤ n → n < (s.call e.inspect start).2 → (s.history n).HoldsDocument d) →
      (s.call e.inspect start).1 = e.inspect.run d.source := by
  refine ⟨?_, fun h => ⟨snd_call_inspect h, exists_holdsDocument h,
    fun part hpart hone => exists_outcome_of_weaker hpart hone h⟩,
    fun source hsource => hsource.fst_call, fun d hd => ?_⟩
  · rw [Expectation.inspect_eq, call_inspectAll_eq_ok_true_iff Check.nodup_all]
    exact ⟨fun h c => h c (Check.mem_all c), fun h c _ => h c⟩
  · exact fst_call_of_forall_source_eq fun n hstart hstop => (hd n hstart hstop).source_eq s.name

/-! ### Two interfaces that are never up together -/

/-- The document that knows of one interface, and that it is up. -/
def onlyUp (name : String) : Document :=
  .ofValue (.object [("dut", .object [("interface", .object [
    (name, .object [("oper-status", .string "up")])])])])

/-- The text of that document. -/
def onlyUpText (name : String) : String :=
  "\x7b\"dut\":\x7b\"interface\":\x7b\"" ++ name ++ "\":\x7b\"oper-status\":\"up\"\x7d\x7d\x7d\x7d"

/-- A snapshot that is replaced after its first read. -/
def handover : Snapshot where
  name := "s.json"
  history n := .content (onlyUpText (if n = 0 then "eth0" else "eth1")).toUTF8

/-- Two interfaces that should be up. -/
def bothUp : Expectation := (({} : Expectation).withInterface "eth0" .up).withInterface "eth1" .up

theorem holdsDocument_handover (n : Nat) :
    (handover.history n).HoldsDocument (onlyUp (if n = 0 then "eth0" else "eth1")) := by
  refine ⟨_, rfl, ?_⟩
  split <;> rfl

/-- Each of the two reads finds the interface that it is for. -/
theorem call_handover : (handover.call bothUp.inspect 0).1.result = .ok true := by
  let seen : Source := fun p =>
    if p = .device "interface" "eth0" then (onlyUp "eth0").source p else (onlyUp "eth1").source p
  have hanswers : handover.Answers 0 (bothUp.inspect.asked seen) seen := by
    show handover.Answers 0 [.device "interface" "eth0", .device "interface" "eth1"] seen
    rw [answers_cons, answers_cons, (holdsDocument_handover 0).source_eq,
      (holdsDocument_handover 1).source_eq]
    exact ⟨rfl, rfl, nofun⟩
  rw [call_eq_of_answers_asked hanswers]
  rfl

/-- The call says yes, and the first interface was up in one of the two documents. -/
theorem call_inspect_replaced_handover :
    let first := ({} : Expectation).withInterface "eth0" .up
    (handover.call bothUp.inspect 0).1.result = .ok true ∧
      Check.interfaces.outcome (handover.seen 0 (Check.interfaces.paths bothUp)) bothUp = .ok true ∧
      (handover.call bothUp.inspect 0).2 = 2 ∧ first.Weaker bothUp ∧ first.paths.length = 1 ∧
      ∃ n d, n < 2 ∧ (handover.history n).HoldsDocument d ∧ first.outcome d.source = .ok true := by
  intro first
  obtain ⟨hiff, hyes, -⟩ := call_inspect_replaced handover bothUp 0
  obtain ⟨hcount, -, hparts⟩ := hyes call_handover
  have htwo : (handover.call bothUp.inspect 0).2 = 2 := hcount
  have hweaker : first.Weaker bothUp :=
    Expectation.Addition.weaker_apply (a := .interface "eth1" .up) rfl
  obtain ⟨n, d, -, hn, hd, houtcome⟩ := hparts first hweaker rfl
  exact ⟨call_handover, hiff.mp call_handover .interfaces, htwo, hweaker, rfl, n, d, htwo ▸ hn, hd,
    houtcome⟩

/-- A call may say yes to a file that holds a document at all times, none of which satisfies the
expectation. -/
theorem not_forall_call_sound :
    ¬∀ (s : Snapshot) (e : Expectation) (start : Nat), (∀ n, ∃ d, (s.history n).HoldsDocument d) →
      (s.call e.inspect start).1.result = .ok true →
        ∃ n d, (s.history n).HoldsDocument d ∧ e.outcome d.source = .ok true := by
  intro h
  obtain ⟨n, d, hd, houtcome⟩ :=
    h handover bothUp 0 (fun n => ⟨_, holdsDocument_handover n⟩) call_handover
  rw [← hd.source_eq handover.name, (holdsDocument_handover n).source_eq] at houtcome
  split at houtcome <;> exact nomatch houtcome

end Snapshot

end Convergence
