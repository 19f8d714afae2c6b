import DeviceHal.Core.NetworkInfo
import Mathlib.Data.List.DropRight

/-! # Report history

`setIteminReport` of `core/SystemStatus.cpp` over whole sequences of items, for
the report types that inherit `collate` from `SystemStatusItemBase`, and the
report of the latest position. -/
namespace DeviceHal.Core.ReportHistory
open DeviceHal.Core.NetworkInfo

variable {τ δ : Type}

/-! ## Items of one report type -/

/-- `equals` of a report type. No type compares what the base class adds. -/
class ReportData (δ : Type) where
  equals : δ → δ → Bool

/-- The comparison `==` of floating point numbers. It is not reflexive: no NaN is equal
to itself. -/
class FloatEq (F : Type) where
  eq : F → F → Bool
  symm : ∀ {a b}, eq a b = true → eq b a = true
  trans : ∀ {a b c}, eq a b = true → eq b c = true → eq a c = true

instance : FloatEq Int where
  eq a b := a == b
  symm h := by rw [beq_iff_eq] at h ⊢; exact h.symm
  trans hab hbc := by rw [beq_iff_eq] at hab hbc ⊢; exact hab.trans hbc

/-- `SystemStatusItemBase` with the fields of one report type. -/
structure SystemStatusItem (τ δ : Type) where
  mUtcTime : τ
  mUtcReported : τ
  data : δ
deriving DecidableEq

/-- The base constructor reads the clock once. -/
def SystemStatusItem.new (now : τ) (data : δ) : SystemStatusItem τ δ := ⟨now, now, data⟩

instance [ReportData δ] : StatusItem (SystemStatusItem τ δ) where
  collate s _ := s
  equals back s := ReportData.equals back.data s.data
  setReported back s := { back with mUtcReported := s.mUtcReported }

/-- What a later report of the same thing leaves as it is. -/
def SystemStatusItem.fixed (s : SystemStatusItem τ δ) : τ × δ := (s.mUtcTime, s.data)

section History
variable [ReportData δ]

/-- The item is equal to the last one of the list. -/
def repeats (report : List (SystemStatusItem τ δ)) (s : SystemStatusItem τ δ) : Bool :=
  report.getLast?.any fun back => ReportData.equals back.data s.data

/-- A call returns false exactly for a repeat. -/
theorem setIteminReport_fst (report : List (SystemStatusItem τ δ)) (s : SystemStatusItem τ δ) :
    (setIteminReport report s).1 = !repeats report s := by
  unfold setIteminReport repeats
  cases report.getLast? with
  | none => rfl
  | some back =>
    show _ = !ReportData.equals back.data s.data
    by_cases heq : ReportData.equals back.data s.data = true
    · rw [heq]
      exact congrArg Prod.fst (if_pos heq)
    · rw [Bool.not_eq_true] at heq
      rw [heq]
      exact congrArg Prod.fst (if_neg (by simp [StatusItem.equals, StatusItem.collate, heq]))

/-- A repeat changes the report time of the latest report and nothing else. -/
theorem fixed_setIteminReport (report : List (SystemStatusItem τ δ))
    (s : SystemStatusItem τ δ) :
    (setIteminReport report s).2.1.map SystemStatusItem.fixed =
      (if repeats report s then report else pushReport report s).map SystemStatusItem.fixed := by
  rcases List.eq_nil_or_concat' report with rfl | ⟨rest, back, rfl⟩
  · rfl
  · simp only [setIteminReport, repeats, List.getLast?_concat, List.dropLast_concat,
      Option.any_some, StatusItem.equals, StatusItem.collate, StatusItem.setReported]
    split <;> simp [SystemStatusItem.fixed]

theorem data_setIteminReport (report : List (SystemStatusItem τ δ))
    (s : SystemStatusItem τ δ) :
    (setIteminReport report s).2.1.getLast?.map (·.data) =
      if repeats report s then report.getLast?.map (·.data) else some s.data := by
  have hlast := congrArg (fun l => l.getLast?.map Prod.snd) (fixed_setIteminReport report s)
  simp only [List.getLast?_map, Option.map_map] at hlast
  refine hlast.trans ?_
  split
  · rfl
  · rw [getLast?_pushReport]
    rfl

/-- Repeat or not, the latest report then has the report time of the item. -/
theorem reported_setIteminReport (report : List (SystemStatusItem τ δ))
    (s : SystemStatusItem τ δ) :
    (setIteminReport report s).2.1.getLast?.map (·.mUtcReported) = some s.mUtcReported := by
  rcases List.eq_nil_or_concat' report with rfl | ⟨rest, back, rfl⟩
  · rfl
  · simp only [setIteminReport, List.getLast?_concat, List.dropLast_concat,
      StatusItem.collate, StatusItem.setReported]
    split
    · simp
    · rw [getLast?_pushReport]
      rfl

/-- The report list after the items were given in turn. -/
def history (items : List (SystemStatusItem τ δ)) : List (SystemStatusItem τ δ) :=
  items.foldl (fun report s => (setIteminReport report s).2.1) []

theorem history_concat (items : List (SystemStatusItem τ δ)) (s : SystemStatusItem τ δ) :
    history (items ++ [s]) = (setIteminReport (history items) s).2.1 := by
  simp [history, List.foldl_append]

/-! ## The sequence without repeats -/

/-- Keep an item that is not equal to the one kept before it. -/
def keep (log : List (SystemStatusItem τ δ)) (s : SystemStatusItem τ δ) :
    List (SystemStatusItem τ δ) :=
  if repeats log s then log else log ++ [s]

def kept (items : List (SystemStatusItem τ δ)) : List (SystemStatusItem τ δ) :=
  items.foldl keep []

theorem kept_concat (items : List (SystemStatusItem τ δ)) (s : SystemStatusItem τ δ) :
    kept (items ++ [s]) = keep (kept items) s := by
  simp [kept, List.foldl_append]

theorem length_kept_le (items : List (SystemStatusItem τ δ)) :
    (kept items).length ≤ items.length := by
  induction items using List.reverseRecOn with
  | nil => simp [kept]
  | append_singleton items s ih =>
    rw [kept_concat, keep, List.length_append]
    split
    · omega
    · rw [List.length_append]
      simpa using ih

end History

/-! ## The newest reports -/

theorem rtake_of_length_le {α : Type} {l : List α} {n : Nat} (h : l.length ≤ n) :
    l.rtake n = l := by
  simp [List.rtake, Nat.sub_eq_zero_of_le h]

/-- Dropping the oldest element on each push loses nothing of the newest `n + 1`. -/
theorem rtake_rtake_concat {α : Type} (l : List α) (x : α) (n : Nat) :
    (l.rtake (n + 1) ++ [x]).rtake (n + 1) = (l ++ [x]).rtake (n + 1) := by
  rw [List.rtake_concat_succ, List.rtake_concat_succ]
  congr 1
  simp only [List.rtake, List.drop_drop, List.length_drop]
  congr 1
  omega

theorem length_rtake_le {α : Type} (l : List α) (n : Nat) : (l.rtake n).length ≤ n := by
  simp only [List.rtake, List.length_drop]
  omega

/-- One push keeps the newest `maxItem` reports of a list that has no more. -/
theorem pushReport_eq {ITEM : Type} {report : List ITEM} (h : report.length ≤ maxItem)
    (s : ITEM) : pushReport report s = (report ++ [s]).rtake maxItem := by
  unfold pushReport
  split
  · rename_i hlen
    have hfive : report.length = maxItem := by
      rw [List.length_append, List.length_singleton] at hlen
      omega
    rw [List.rtake, List.length_append, List.length_singleton, hfive, Nat.add_sub_cancel_left,
      List.drop_one]
  · rename_i hlen
    exact (rtake_of_length_le (Nat.le_of_not_lt hlen)).symm

theorem map_rtake {α β : Type} (f : α → β) (l : List α) (n : Nat) :
    (l.rtake n).map f = (l.map f).rtake n := by
  simp [List.rtake, List.map_drop]

theorem getLast?_rtake {α : Type} (l : List α) (n : Nat) :
    (l.rtake (n + 1)).getLast? = l.getLast? := by
  rcases List.eq_nil_or_concat' l with rfl | ⟨rest, x, rfl⟩
  · simp [List.rtake]
  · rw [List.rtake_concat_succ, List.getLast?_concat, List.getLast?_concat]

/-! ## Histories -/

section History
variable [ReportData δ]

theorem repeats_eq (report : List (SystemStatusItem τ δ)) (s : SystemStatusItem τ δ) :
    repeats report s = (report.map SystemStatusItem.fixed).getLast?.any
      fun back => ReportData.equals back.2 s.data := by
  rw [repeats, List.getLast?_map]
  cases report.getLast? <;> rfl

theorem repeats_congr {report log : List (SystemStatusItem τ δ)}
    (h : report.map SystemStatusItem.fixed = (log.rtake maxItem).map SystemStatusItem.fixed)
    (s : SystemStatusItem τ δ) : repeats report s = repeats log s := by
  rw [repeats_eq, h, repeats_eq, List.getLast?_map, List.getLast?_map, maxItem, getLast?_rtake]

/-- One call does to the newest reports what `keep` does to the whole sequence. -/
theorem newest_setIteminReport {report log : List (SystemStatusItem τ δ)}
    (h : report.map SystemStatusItem.fixed = (log.rtake maxItem).map SystemStatusItem.fixed)
    (s : SystemStatusItem τ δ) :
    (setIteminReport report s).2.1.map SystemStatusItem.fixed =
      ((keep log s).rtake maxItem).map SystemStatusItem.fixed := by
  rw [fixed_setIteminReport, keep, ← repeats_congr h]
  split
  · exact h
  · have hlen : report.length ≤ maxItem := by
      have hlen := congrArg List.length h
      rw [List.length_map, List.length_map] at hlen
      exact hlen ▸ length_rtake_le log maxItem
    rw [pushReport_eq hlen, map_rtake, List.map_append, h, ← List.map_append, ← map_rtake,
      maxItem, rtake_rtake_concat]

/-- **The list holds the newest reports of the sequence without repeats.** -/
theorem history_newest (items : List (SystemStatusItem τ δ)) :
    (history items).map SystemStatusItem.fixed =
      ((kept items).rtake maxItem).map SystemStatusItem.fixed := by
  induction items using List.reverseRecOn with
  | nil => rfl
  | append_singleton items s ih =>
    rw [history_concat, kept_concat]
    exact newest_setIteminReport ih s

/-- The items by the reports they belong to: each item that is kept, with its repeats. -/
structure Grouped (items : List (SystemStatusItem τ δ))
    (groups : List (SystemStatusItem τ δ × List (SystemStatusItem τ δ))) : Prop where
  flatten : groups.flatMap (fun g => g.1 :: g.2) = items
  heads : groups.map Prod.fst = kept items
  tails : ∀ g ∈ groups, ∀ s ∈ g.2, ReportData.equals g.1.data s.data = true

/-- An item that is kept, with the report time of the last of its repeats. -/
def reportOf (g : SystemStatusItem τ δ × List (SystemStatusItem τ δ)) : SystemStatusItem τ δ :=
  { g.1 with mUtcReported := (g.2.getLast?.getD g.1).mUtcReported }

theorem Grouped.repeated {items : List (SystemStatusItem τ δ)}
    {groups : List (SystemStatusItem τ δ × List (SystemStatusItem τ δ))}
    {g : SystemStatusItem τ δ × List (SystemStatusItem τ δ)} {s : SystemStatusItem τ δ}
    (h : Grouped items (groups ++ [g])) (hs : ReportData.equals g.1.data s.data = true) :
    Grouped (items ++ [s]) (groups ++ [(g.1, g.2 ++ [s])]) where
  flatten := by
    rw [← h.flatten]
    simp
  heads := by
    have hkept := h.heads
    rw [List.map_append, List.map_singleton] at hkept ⊢
    have hrepeats : repeats (kept items) s = true := by
      rw [← hkept, repeats, List.getLast?_concat]
      exact hs
    rw [kept_concat, keep, if_pos hrepeats]
    exact hkept
  tails := by
    intro g' hg'
    rcases List.mem_append.mp hg' with hold | hnew
    · exact h.tails g' (List.mem_append_left _ hold)
    · rw [List.mem_singleton.mp hnew]
      intro s' hs'
      rcases List.mem_append.mp hs' with hold | hlast
      · exact h.tails g (List.mem_append_right _ (List.mem_singleton_self g)) s' hold
      · rw [List.mem_singleton.mp hlast]
        exact hs

theorem Grouped.pushed {items : List (SystemStatusItem τ δ)}
    {groups : List (SystemStatusItem τ δ × List (SystemStatusItem τ δ))}
    {s : SystemStatusItem τ δ} (h : Grouped items groups) (hs : ¬ repeats (kept items) s = true) :
    Grouped (items ++ [s]) (groups ++ [(s, [])]) where
  flatten := by
    rw [← h.flatten]
    simp
  heads := by rw [List.map_append, h.heads, kept_concat, keep, if_neg hs, List.map_singleton]
  tails := by
    intro g hg
    rcases List.mem_append.mp hg with hold | hnew
    · exact h.tails g hold
    · rw [List.mem_singleton.mp hnew]
      exact fun _ hnone => absurd hnone List.not_mem_nil

theorem setIteminReport_concat (rest : List (SystemStatusItem τ δ))
    (back s : SystemStatusItem τ δ) :
    (setIteminReport (rest ++ [back]) s).2.1 =
      if ReportData.equals back.data s.data = true then
        rest ++ [{ back with mUtcReported := s.mUtcReported }]
      else pushReport (rest ++ [back]) s := by
  simp only [setIteminReport, List.getLast?_concat, List.dropLast_concat, StatusItem.equals,
    StatusItem.collate, StatusItem.setReported]
  split <;> rfl

/-- **Every report has the time of the last item that repeats it.** -/
theorem history_grouped (items : List (SystemStatusItem τ δ)) :
    ∃ groups, Grouped items groups ∧ history items = (groups.map reportOf).rtake maxItem := by
  induction items using List.reverseRecOn with
  | nil => exact ⟨[], ⟨rfl, rfl, fun _ hg => absurd hg List.not_mem_nil⟩, rfl⟩
  | append_singleton items s ih =>
    obtain ⟨groups, hgroups, hlist⟩ := ih
    rcases List.eq_nil_or_concat' groups with rfl | ⟨front, g, rfl⟩
    · obtain rfl : items = [] := hgroups.flatten.symm
      exact ⟨[(s, [])], hgroups.pushed (by simp [kept, repeats]), rfl⟩
    · have hlast : history items =
          ((front.map reportOf).rtake (maxItem - 1)) ++ [reportOf g] := by
        rw [hlist, List.map_append, List.map_singleton, maxItem, List.rtake_concat_succ]
      by_cases hs : ReportData.equals g.1.data s.data = true
      · refine ⟨_, hgroups.repeated hs, ?_⟩
        rw [history_concat, hlast, setIteminReport_concat,
          if_pos (show ReportData.equals (reportOf g).data s.data = true from hs), List.map_append,
          List.map_singleton, maxItem, List.rtake_concat_succ]
        simp [reportOf]
      · have hnew : ¬ repeats (kept items) s = true := by
          rw [← hgroups.heads, repeats, List.map_append, List.map_singleton, List.getLast?_concat]
          exact hs
        refine ⟨_, hgroups.pushed hnew, ?_⟩
        have hlen : (history items).length ≤ maxItem := hlist ▸ length_rtake_le _ _
        rw [history_concat, hlast, setIteminReport_concat,
          if_neg (show ¬ ReportData.equals (reportOf g).data s.data = true from hs), ← hlast, pushReport_eq hlen,
          hlist, maxItem, rtake_rtake_concat]
        simp only [List.map_append, List.map_singleton]
        rfl

/-- **Report history.** The list holds the last `maxItem` reports of the sequence without
repeats, each call tells whether its item was kept, and the latest report has the report
time of the last item, as every other one has that of the last item that repeats it. -/
theorem report_history (items : List (SystemStatusItem τ δ)) :
    (history items).map SystemStatusItem.fixed =
        ((kept items).rtake (min items.length maxItem)).map SystemStatusItem.fixed ∧
      (∀ (before : List (SystemStatusItem τ δ)) (s : SystemStatusItem τ δ),
        kept (before ++ [s]) = kept before ++
          if (setIteminReport (history before) s).1 then [s] else []) ∧
      (history items).getLast?.map (·.mUtcReported) = items.getLast?.map (·.mUtcReported) ∧
      ∃ groups, Grouped items groups ∧ history items = (groups.map reportOf).rtake maxItem := by
  refine ⟨?_, ?_, ?_, history_grouped items⟩
  · rw [history_newest]
    congr 1
    have hlen := length_kept_le items
    rcases Nat.le_total items.length maxItem with hfew | hmany
    · rw [Nat.min_eq_left hfew, rtake_of_length_le hlen, rtake_of_length_le (hlen.trans hfew)]
    · rw [Nat.min_eq_right hmany]
  · intro before s
    rw [kept_concat, keep, setIteminReport_fst, repeats_congr (history_newest before)]
    cases repeats (kept before) s <;> simp
  · rcases List.eq_nil_or_concat' items with rfl | ⟨before, s, rfl⟩
    · rfl
    · rw [history_concat, reported_setIteminReport, List.getLast?_concat]
      rfl

end History

/-! ## Calls that change nothing -/

theorem concat_eq_cons_iff {α : Type} (l : List α) (x y : α) :
    l ++ [x] = y :: l ↔ y = x ∧ ∀ z ∈ l, z = x := by
  induction l generalizing y with
  | nil => simp [eq_comm]
  | cons z l ih =>
    rw [List.cons_append, List.cons.injEq, ih z]
    constructor
    · rintro ⟨rfl, rfl, hall⟩
      exact ⟨rfl, by simpa using hall⟩
    · rintro ⟨rfl, hall⟩
      have hz := hall z (List.mem_cons_self ..)
      exact ⟨hz, hz, fun w hw => hall w (List.mem_cons_of_mem z hw)⟩

/-- A push leaves the list as it is only when it is full of copies of the report. -/
theorem pushReport_eq_self_iff {ITEM : Type} (report : List ITEM) (s : ITEM) :
    pushReport report s = report ↔ maxItem ≤ report.length ∧ ∀ x ∈ report, x = s := by
  unfold pushReport
  split
  · rename_i hlen
    rw [List.length_append, List.length_singleton] at hlen
    cases report with
    | nil => simp [maxItem] at hlen
    | cons y rest =>
      rw [List.cons_append, List.tail_cons, concat_eq_cons_iff, List.forall_mem_cons,
        and_iff_right (Nat.le_of_lt_succ hlen)]
  · rename_i hlen
    rw [List.length_append, List.length_singleton] at hlen
    constructor
    · intro h
      have hlonger := congrArg List.length h
      rw [List.length_append, List.length_singleton] at hlonger
      omega
    · rintro ⟨hfull, -⟩
      omega

section History
variable [ReportData δ]

/-- The list already has the item as it is: the latest report is equal to it and has its
report time, or the list is full of copies of it and it is not even equal to itself. -/
def Settled (report : List (SystemStatusItem τ δ)) (s : SystemStatusItem τ δ) : Prop :=
  (∃ back, report.getLast? = some back ∧ ReportData.equals back.data s.data = true ∧
      back.mUtcReported = s.mUtcReported) ∨
    (maxItem ≤ report.length ∧ (∀ x ∈ report, x = s) ∧ ReportData.equals s.data s.data = false)

theorem setIteminReport_eq_self_iff (report : List (SystemStatusItem τ δ))
    (s : SystemStatusItem τ δ) : (setIteminReport report s).2.1 = report ↔ Settled report s := by
  rcases List.eq_nil_or_concat' report with rfl | ⟨rest, back, rfl⟩
  · simp [setIteminReport, pushReport, Settled, maxItem]
  · simp only [setIteminReport, Settled, List.getLast?_concat, List.dropLast_concat,
      StatusItem.equals, StatusItem.collate, StatusItem.setReported, Option.some.injEq]
    by_cases hsame : ReportData.equals back.data s.data = true
    · rw [if_pos hsame]
      constructor
      · intro h
        have hback := List.head_eq_of_cons_eq (List.append_inj' h rfl).2
        exact .inl ⟨back, rfl, hsame, (congrArg (·.mUtcReported) hback).symm⟩
      · rintro (⟨_, rfl, -, htime⟩ | ⟨-, hall, hdiff⟩)
        · rw [← htime]
        · rw [hall back (by simp), hdiff] at hsame
          cases hsame
    · rw [if_neg hsame, pushReport_eq_self_iff]
      constructor
      · rintro ⟨hfull, hall⟩
        refine .inr ⟨hfull, hall, ?_⟩
        have hback := hall back (by simp)
        rwa [hback, Bool.not_eq_true] at hsame
      · rintro (⟨_, rfl, heq, -⟩ | ⟨hfull, hall, -⟩)
        · exact absurd heq hsame
        · exact ⟨hfull, hall⟩

end History

end DeviceHal.Core.ReportHistory
