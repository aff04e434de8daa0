import TaskWorker.Proofs.Digits
import TaskWorker.Proofs.Turns
/-!
# Names of executions

The name of an execution is a pattern with its number in each place that is meant for it, or behind
the pattern if there is none. So a name is made of the parts of its pattern, which are the same for
all executions, and of the digits of a number, which stand between the parts. However the parts end
and begin, even with digits, a name of a given length leaves room for one number only.

* `length_intercalate`, **`intercalate_injective`**: what stands between the parts can be read off;
* `Settings.patternParts`, the parts of a pattern; **`Settings.exists_gaps`**: a name is the parts
  of its pattern, or the pattern and nothing, with the digits of a number between them;
* `Dispatcher.names`, the names in a journal; **`Host.Run.named`**: those of a run;
* **`Host.names_differ`**: no two executions have the same name.
-/

namespace TaskWorker

/-! ## Lists between the parts of others -/

section Intercalate

variable {β : Type} {xs ys : List β} {ps : List (List β)}

theorem length_intercalate (xs : List β) (ps : List (List β)) :
    (xs.intercalate ps).length = ps.flatten.length + (ps.length - 1) * xs.length := by
  induction ps with
  | nil => simp
  | cons p ps ih =>
    cases ps with
    | nil => simp
    | cons q ps =>
      rw [List.intercalate_cons_cons, List.length_append, List.length_append, ih]
      simp only [List.flatten_cons, List.length_append, List.length_cons, Nat.add_sub_cancel,
        Nat.add_mul]
      omega

/-- **What stands between two parts or more can be read off.** It stands there as often in both
lists, so it is as long in both, and it begins behind the first part in both. -/
theorem intercalate_injective (two : 1 < ps.length)
    (same : xs.intercalate ps = ys.intercalate ps) : xs = ys := by
  have lengths := congrArg List.length same
  rw [length_intercalate, length_intercalate, Nat.add_left_cancel_iff] at lengths
  have length : xs.length = ys.length := Nat.eq_of_mul_eq_mul_left (by omega) lengths
  obtain _ | ⟨p, _ | ⟨q, ps⟩⟩ := ps
  · simp at two
  · simp at two
  · rw [List.intercalate_cons_cons, List.intercalate_cons_cons, List.append_assoc,
      List.append_assoc, List.append_cancel_left_eq] at same
    exact (List.append_inj same length).1

end Intercalate

theorem toDigits_injective {n m : Nat} (same : Nat.toDigits 10 n = Nat.toDigits 10 m) : n = m := by
  rw [← Text.numberOf_toDigits n, same, Text.numberOf_toDigits]

/-! ## Patterns -/

namespace Settings

/-- The parts of a pattern before, between and behind the places for the number. -/
def patternParts : List Char → List (List Char)
  | '%' :: 'd' :: cs => [] :: patternParts cs
  | c :: cs => (patternParts cs).modifyHead (c :: ·)
  | [] => [[]]

/-- The first part of a pattern is what the pattern begins with. -/
theorem patternParts_eq_cons (cs : List Char) : ∃ p ps, patternParts cs = p :: ps ∧ p <+: cs := by
  fun_induction patternParts cs with
  | case1 cs _ => exact ⟨[], patternParts cs, rfl, List.nil_prefix⟩
  | case2 c cs _ ih =>
    obtain ⟨p, ps, same, front⟩ := ih
    exact ⟨c :: p, ps, by rw [same, List.modifyHead_cons], List.cons_prefix_cons.mpr ⟨rfl, front⟩⟩
  | case3 => exact ⟨[], [], rfl, List.nil_prefix⟩

/-- **To write digits into every place for the number is to write them between the parts.** -/
theorem substitute_eq (digits cs : List Char) :
    substitute digits cs = digits.intercalate (patternParts cs) := by
  fun_induction substitute digits cs with
  | case1 cs ih =>
    obtain ⟨p, ps, same, -⟩ := patternParts_eq_cons cs
    rw [ih, patternParts, same, List.intercalate_cons_cons, List.nil_append]
  | case2 c cs other ih =>
    obtain ⟨p, ps, same, -⟩ := patternParts_eq_cons cs
    rw [ih, patternParts, same, List.modifyHead_cons, List.intercalate_cons_cons_left]
    exact other
  | case3 => rfl

/-- A pattern stays as it is if the mark of a place is written into every place. -/
theorem substitute_placeholder (cs : List Char) : substitute placeholder.toList cs = cs := by
  fun_induction substitute placeholder.toList cs with
  | case1 cs ih => rw [ih]; rfl
  | case2 c cs _ ih => rw [ih]
  | case3 => rfl

theorem hasPlaceholder_iff (cs : List Char) :
    hasPlaceholder cs = true ↔ 1 < (patternParts cs).length := by
  fun_induction hasPlaceholder cs with
  | case1 cs =>
    obtain ⟨p, ps, same, -⟩ := patternParts_eq_cons cs
    simp [patternParts, same]
  | case2 c cs other ih =>
    rw [ih, patternParts, List.length_modifyHead]
    exact other
  | case3 => simp [patternParts]

/-- **No part has a place for the number in it.** -/
theorem not_infix_of_mem_patternParts {cs p : List Char} (mem : p ∈ patternParts cs) :
    ¬ placeholder.toList <:+: p := by
  show ¬ ['%', 'd'] <:+: p
  fun_induction patternParts cs generalizing p with
  | case1 cs ih =>
    rcases List.mem_cons.mp mem with rfl | mem
    · simp
    · exact ih mem
  | case2 c cs other ih =>
    obtain ⟨q, qs, same, front⟩ := patternParts_eq_cons cs
    rw [same] at ih mem
    rcases List.mem_cons.mp mem with rfl | mem
    · rw [List.infix_cons_iff]
      rintro (first | later)
      · -- What begins in front of the part begins in front of the pattern.
        obtain ⟨rfl, second⟩ := List.cons_prefix_cons.mp first
        obtain ⟨rest, rfl⟩ := second.trans front
        exact other rest rfl rfl
      · exact ih List.mem_cons_self later
    · exact ih (List.mem_cons_of_mem q mem)
  | case3 => simp_all

/-- **How a name is made.** The digits of its number stand between the parts of the pattern, which
are what is left of it when all places for the number are taken out; if it has none, they stand
between the pattern and nothing. -/
theorem exists_gaps (s : Settings) : ∃ gaps : List (List Char), 1 < gaps.length ∧
    (∀ p ∈ gaps, ¬ placeholder.toList <:+: p) ∧
    (placeholder.toList.intercalate gaps = s.namePattern.toList ∨
      gaps = [s.namePattern.toList, []]) ∧
    ∀ n, (s.executionName n).toList = (Nat.toDigits 10 n).intercalate gaps := by
  have pattern := substitute_placeholder s.namePattern.toList
  rw [substitute_eq] at pattern
  by_cases place : hasPlaceholder s.namePattern.toList = true
  · refine ⟨patternParts s.namePattern.toList, (hasPlaceholder_iff _).mp place,
      fun p mem => not_infix_of_mem_patternParts mem, .inl pattern, fun n => ?_⟩
    rw [executionName, String.toList_ofList, if_pos place, substitute_eq]
  · have whole : patternParts s.namePattern.toList = [s.namePattern.toList] := by
      obtain ⟨p, ps, same, -⟩ := patternParts_eq_cons s.namePattern.toList
      rw [hasPlaceholder_iff, same, List.length_cons] at place
      obtain rfl : ps = [] := List.length_eq_zero_iff.mp (by omega)
      rw [same, List.intercalate_singleton] at pattern
      rw [same, pattern]
    refine ⟨[s.namePattern.toList, []], Nat.one_lt_two, ?_, .inr rfl, fun n => ?_⟩
    · intro p mem
      rcases List.mem_cons.mp mem with rfl | mem
      · exact not_infix_of_mem_patternParts (whole ▸ List.mem_singleton_self _)
      · rw [List.mem_singleton.mp mem]
        simp [placeholder]
    · rw [executionName, String.toList_ofList, if_neg place]
      simp [List.intercalate_cons_cons]

/-- **Executions of different numbers have different names.** -/
theorem executionName_injective (s : Settings) : Function.Injective s.executionName := by
  intro n m same
  obtain ⟨gaps, two, -, -, names⟩ := s.exists_gaps
  have digits := congrArg String.toList same
  rw [names, names] at digits
  exact toDigits_injective (intercalate_injective two digits)

end Settings

/-! ## The names in a journal -/

variable {α : Type}

/-- The number and the name of an execution that begins. -/
def Entry.name? : Entry → Option (Nat × String)
  | .named n _ name => some (n, name)
  | _ => none

namespace Dispatcher

variable {d d' : Dispatcher α} {e : Host.Event}

/-- The names of executions, each with its number, the latest first. -/
def names (d : Dispatcher α) : List (Nat × String) := d.journal.filterMap Entry.name?

/-- An execution gets its name when it begins, and the number of executions goes into it. -/
theorem Move.names_eq (move : d.Move e d') :
    d'.dispatched = d.dispatched ∧ d'.names = d.names ∨
      d'.dispatched = d.dispatched + 1 ∧
        d'.names = (d.dispatched + 1, d.settings.executionName (d.dispatched + 1)) :: d.names := by
  cases move with
  | aside _ same => exact .inl ⟨same.dispatched, by rw [names, same.journal, names]⟩
  | poll _ _ _ taken =>
    obtain ⟨_, _, _, _, rfl⟩ := acquire?_eq_some taken
    exact .inl ⟨rfl, rfl⟩
  | handOver _ => exact .inr ⟨rfl, rfl⟩
  | handled _ _ concluded | lostConcluding _ _ concluded =>
    obtain ⟨_, rfl⟩ := conclude_eq concluded
    exact .inl ⟨rfl, rfl⟩
  | delivered _ _ finished | lostTelling _ _ finished _ =>
    obtain ⟨_, _, rfl, undelivered⟩ := afterReport_over finished
    exact .inl ⟨rfl, filterMap_news rfl undelivered⟩
  | _ => exact .inl ⟨rfl, rfl⟩

end Dispatcher

namespace Host

variable {h₀ h : Host α} {es : List Event} {handlers : List (Handler α)} {settings : Settings}

/-- **The executions of a run are numbered from one, and each is named after its number.** -/
theorem Run.named (built : build handlers settings = .ok h₀) (run : Run h₀ es h) :
    h.dispatcher.names.reverse =
      (List.range' 1 h.dispatcher.dispatched).map fun n => (n, settings.executionName n) := by
  obtain ⟨hs, a, rfl, -⟩ := build_eq_ok built
  refine (run.keeps (P := fun h => h.dispatcher.settings = settings ∧
    h.dispatcher.names.reverse = (List.range' 1 h.dispatcher.dispatched).map fun n =>
      (n, settings.executionName n)) ?_ ⟨rfl, rfl⟩).2
  rintro h h' e ⟨same, named⟩ step
  have move := step?_move step
  refine ⟨move.settings_eq.trans same, ?_⟩
  rcases move.names_eq with ⟨number, names⟩ | ⟨number, names⟩
  · rw [number, names, named]
  · rw [number, names, List.reverse_cons, named, same, List.range'_concat, List.map_append,
      Nat.one_mul, Nat.add_comm]
    rfl

/-- **No two executions share a name.** Whatever the pattern is, two numbers never give the same
name; and the executions of a run, which are numbered in their order, have different names. -/
theorem names_differ (settings : Settings) :
    (∀ n m, settings.executionName n = settings.executionName m ↔ n = m) ∧
    ∀ {handlers : List (Handler α)} {h₀ h : Host α} {es : List Event},
      build handlers settings = .ok h₀ → Run h₀ es h →
        h.dispatcher.names.reverse = (List.range' 1 h.dispatcher.dispatched).map
          (fun n => (n, settings.executionName n)) ∧
        (h.dispatcher.names.map Prod.snd).Nodup := by
  have apart := settings.executionName_injective
  refine ⟨fun n m => apart.eq_iff, fun built run => ?_⟩
  have named := run.named built
  refine ⟨named, ?_⟩
  rw [← List.nodup_reverse, ← List.map_reverse, named, List.map_map]
  exact List.Nodup.map apart List.nodup_range'

/-- A pattern with two places for the number, one behind a percent sign and one before a digit. -/
def samplePattern : Settings := { Settings.standard "0" with namePattern := "%%d-%d1" }

/-- A host that names its executions so. -/
def sampleNaming : Host Unit := assemble [sampleHandler] (.split ["parcel"] 1) samplePattern

/-- One task is done, and then another one comes. -/
def sampleTwice : List Event :=
  sampleWork ++ [.reportAnswered 1 (.ok ()) (.returned ()), .elapse 1000,
    .loopTicks "parcel" false none, .pollAnswered 1 (.ok (some sampleTask))]

def sampleNamed : Host Unit := (sampleNaming.replay sampleTwice).get (by decide)

/-- Both executions are named by the pattern, with the digits of the number beside its own. -/
theorem sample_names_differ :
    build [sampleHandler] samplePattern = .ok sampleNaming ∧
      Run sampleNaming sampleTwice sampleNamed ∧
      sampleNamed.dispatcher.names = [(2, "%2-21"), (1, "%1-11")] ∧
      (sampleNamed.dispatcher.names.map Prod.snd).Nodup ∧
      samplePattern.executionName 11 = "%11-111" ∧
      samplePattern.executionName 11 ≠ samplePattern.executionName 1 := by
  have built : build [sampleHandler] samplePattern = .ok sampleNaming := rfl
  have run : Run sampleNaming sampleTwice sampleNamed := run_get _
  have differ := names_differ (α := Unit) samplePattern
  exact ⟨built, run, by decide, (differ.2 built run).2, by decide,
    mt (differ.1 11 1).mp (by decide)⟩

end Host

end TaskWorker
