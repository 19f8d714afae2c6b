import DeviceHal.Utils.LocCfg

/-! # Configuration from a buffer

`loc_update_conf` applies the lines of a buffer to a table. It is meant to
return how many records it has updated, but counts the lines that it takes, and
it stops one record short of the table. -/
namespace DeviceHal.Utils.LocCfgUpdate
open DeviceHal.Lib.CText DeviceHal.Utils.LocCfg

variable {F : Type}

section Code
variable [FloatText F]

/-! ## The code -/

/-- What `loc_update_conf` leaves: the return value, the lines it has given to
`loc_fill_conf_item` and the table. -/
structure Update (F : Type) where
  ret : Int
  calls : List Bytes
  config_table : List (LocParamS F)
deriving DecidableEq

/-- `while(num_params && input_buf)`; each round takes a character of the copy. -/
def updateLoop : Nat → Nat → Option (Bytes × Bytes) → Update F → Update F
  | 0, _, _, u => u
  | _ + 1, _, none, u => u
  | fuel + 1, num_params, some (input_buf, saveptr), u =>
    if num_params = 0 then u
    else
      let (filled, config_table) := loc_fill_conf_item input_buf u.config_table
      updateLoop fuel (unsignedSub num_params filled) (strtok_r 10 saveptr)
        ⟨u.ret + 1, u.calls ++ [input_buf], config_table⟩

/-- `none` is NULL; a table that is NULL is one without entries. -/
def loc_update_conf (conf_data : Option Bytes) (length : Nat)
    (config_table : List (LocParamS F)) : Update F :=
  match conf_data with
  | none => ⟨-1, [], config_table⟩
  | some conf_data =>
    if length ≠ 0 ∧ config_table ≠ [] then
      let conf_copy := cstr (conf_data.take length)
      let num_params := config_table.length - 1
      updateLoop (conf_copy.length + 1) num_params (strtok_r 10 conf_copy) ⟨0, [], config_table⟩
    else ⟨-1, [], config_table⟩

/-! ## The lines of a buffer -/

/-- The lines that are not empty. -/
def bufferLines (text : Bytes) : List Bytes := (text.splitOn 10).filter (· ≠ [])

theorem bufferLines_newline (text : Bytes) : bufferLines (10 :: text) = bufferLines text := by
  simp [bufferLines, List.splitOn_cons_eq_if_modifyHead]

theorem bufferLines_line {line : Bytes} (hline : 10 ∉ line) (hne : line ≠ []) :
    bufferLines line = [line] ∧
      ∀ rest, bufferLines (line ++ 10 :: rest) = line :: bufferLines rest := by
  have hno : ∀ c ∈ line, (c == 10) = false := by
    intro c hc
    simpa using fun (heq : c = 10) => hline (heq ▸ hc)
  constructor
  · rw [bufferLines, List.splitOn_eq_splitOnP, List.splitOnP_eq_singleton hno]
    simp [hne]
  · intro rest
    rw [bufferLines, List.splitOn_eq_splitOnP,
      List.splitOnP_append_cons_of_forall_mem hno 10 rfl]
    simp [hne, bufferLines, List.splitOn_eq_splitOnP]

theorem bufferLines_newlines (k : Nat) (text : Bytes) :
    bufferLines (List.replicate k 10 ++ text) = bufferLines text := by
  induction k with
  | zero => rfl
  | succ k ih => rw [List.replicate_succ, List.cons_append, bufferLines_newline, ih]

/-- `strtok_r` takes the next line and leaves the lines behind it. -/
theorem strtok_r_newline (text : Bytes) :
    (strtok_r 10 text = none ∧ bufferLines text = []) ∨
      ∃ line rest, strtok_r 10 text = some (line, rest) ∧
        bufferLines text = line :: bufferLines rest ∧ rest.length < text.length := by
  cases htok : strtok_r 10 text with
  | none =>
    have hall := strtok_r_eq_none_iff.mp htok
    have hnone := bufferLines_newlines text.length []
    rw [List.append_nil, ← List.eq_replicate_iff.mpr ⟨rfl, hall⟩] at hnone
    exact Or.inl ⟨rfl, hnone⟩
  | some next =>
    obtain ⟨line, rest⟩ := next
    obtain ⟨hne, hno, k, behind, rfl, hbehind, rfl⟩ := strtok_r_eq_some_iff.mp htok
    have hlen := List.length_pos_iff.mpr hne
    refine Or.inr ⟨line, behind.tail, rfl, ?_, ?_⟩
    · rw [bufferLines_newlines]
      cases behind with
      | nil =>
        rw [List.append_nil, (bufferLines_line hno hne).1]
        rfl
      | cons c rest =>
        rw [hbehind c rfl, (bufferLines_line hno hne).2]
        rfl
    · rw [List.length_append, List.length_append, List.length_tail]
      omega

theorem updateLoop_eq {fuel : Nat} (num_params : Nat) {text : Bytes} (hfuel : text.length < fuel)
    (u : Update F) (hnames : (u.config_table.map (·.param_name)).Nodup) :
    updateLoop fuel num_params (strtok_r 10 text) u =
      let read := linesRead u.config_table num_params (bufferLines text)
      ⟨u.ret + (read.length : Nat), u.calls ++ read, fillAll read u.config_table⟩ := by
  induction fuel generalizing num_params text u with
  | zero => omega
  | succ fuel ih =>
    rcases strtok_r_newline text with ⟨htok, hlines⟩ | ⟨line, rest, htok, hlines, hlen⟩
    · rw [htok, hlines]
      cases num_params <;> simp [updateLoop, linesRead, fillAll]
    · rw [htok, hlines]
      cases num_params with
      | zero => simp [updateLoop, linesRead, fillAll]
      | succ n =>
        have hsub : unsignedSub (n + 1) (if fills u.config_table line then 1 else 0) =
            if fills u.config_table line then n else n + 1 := by
          split <;> rfl
        rw [updateLoop, if_neg (Nat.succ_ne_zero n)]
        show updateLoop fuel (unsignedSub (n + 1) (loc_fill_conf_item line u.config_table).1) _
          ⟨_, _, (loc_fill_conf_item line u.config_table).2⟩ = _
        rw [ih _ (by omega) _ (by rwa [names_fill]), filled_eq line hnames, hsub,
          linesRead_congr (fills_fill line u.config_table), linesRead]
        simp only [List.length_cons, List.append_assoc, List.singleton_append, fillAll,
          List.foldl_cons, Update.mk.injEq, and_true]
        push_cast
        omega

/-- The lines that the loop takes: up to the one that sets the last record but one. -/
def taken (config_table : List (LocParamS F)) (text : Bytes) : List Bytes :=
  linesRead config_table (config_table.length - 1) (bufferLines text)

theorem loc_update_conf_eq {text : Bytes} (htext : text ≠ []) {config_table : List (LocParamS F)}
    (htable : config_table ≠ []) (hnames : (config_table.map (·.param_name)).Nodup) :
    loc_update_conf (some text) text.length config_table =
      let read := taken config_table (cstr text)
      ⟨(read.length : Nat), read, config_table.map fun e => read.foldl setEntry e⟩ := by
  have hcopy : text.take text.length = text := List.take_length
  unfold loc_update_conf
  simp only [hcopy]
  rw [if_pos ⟨mt List.length_eq_zero_iff.mp htext, htable⟩,
    updateLoop_eq _ (Nat.lt_succ_self _) _ hnames]
  simp [taken, fillAll_eq]

end Code

/-! ## Lines and records -/

/-- How many records the lines set. -/
def recordsSet (config_table : List (LocParamS F)) (lines : List Bytes) : Nat :=
  config_table.countP fun e => lines.any (fills [e])

theorem recordsSet_filter (config_table : List (LocParamS F)) (lines : List Bytes) :
    recordsSet config_table (lines.filter (fills config_table)) =
      recordsSet config_table lines := by
  refine List.countP_congr fun e he => ?_
  simp only [List.any_eq_true, List.mem_filter]
  exact ⟨fun ⟨l, hl, hset⟩ => ⟨l, hl.1, hset⟩,
    fun ⟨l, hl, hset⟩ => ⟨l, ⟨hl, fills_iff.mpr ⟨e, he, hset⟩⟩, hset⟩⟩

/-- The lines that are read end before a line that would be one too many. -/
theorem take_eq_of_filter {config_table : List (LocParamS F)} {n : Nat} {file : List Bytes}
    (hall : ∀ line ∈ linesRead config_table n file, fills config_table line = true)
    (hfilter : (linesRead config_table n file).filter (fills config_table) =
      file.filter (fills config_table)) : file.take n = linesRead config_table n file := by
  have hfew : file.countP (fills config_table) = (linesRead config_table n file).length := by
    rw [List.countP_eq_length_filter, ← hfilter, List.filter_eq_self.mpr hall]
  have hmin := countP_linesRead config_table n file
  rw [List.countP_eq_length.mpr hall, hfew] at hmin
  rcases Nat.lt_or_ge (file.countP (fills config_table)) n with hlt | hge
  · rw [linesRead_of_few hlt] at hmin ⊢
    exact List.take_of_length_le (by omega)
  · rw [List.prefix_iff_eq_take.mp (linesRead_initial config_table n file)]
    congr 1
    omega

/-- Behind the lines that are read no line sets a record. -/
theorem drop_filter_iff {config_table : List (LocParamS F)} {n : Nat} {file : List Bytes} :
    (file.take n).filter (fills config_table) = file.filter (fills config_table) ↔
      ∀ line ∈ file.drop n, fills config_table line = false := by
  have hsplit := congrArg (List.filter (fills config_table)) (List.take_append_drop n file)
  rw [List.filter_append] at hsplit
  rw [← hsplit, List.self_eq_append_right, List.filter_eq_nil_iff]
  exact forall₂_congr fun _ _ => Bool.not_eq_true _ ▸ Iff.rfl

/-- The buffer is not empty, each of its first lines (one less than the table has records)
sets a record, no two of them the same one, and no line behind them sets any. -/
structure OnePerLine (text : Bytes) (config_table : List (LocParamS F)) : Prop where
  text_ne : text ≠ []
  first : ∀ line ∈ (bufferLines (cstr text)).take (config_table.length - 1),
    fills config_table line = true
  distinct : ((bufferLines (cstr text)).take (config_table.length - 1)).Pairwise fun l l' =>
    ∀ e ∈ config_table, ¬ (fills [e] l = true ∧ fills [e] l' = true)
  rest : ∀ line ∈ (bufferLines (cstr text)).drop (config_table.length - 1),
    fills config_table line = false

theorem taken_of_onePerLine {text : Bytes} {config_table : List (LocParamS F)}
    (h : OnePerLine text config_table) :
    taken config_table (cstr text) =
      (bufferLines (cstr text)).take (config_table.length - 1) :=
  linesRead_of_fills h.first

section Correct
variable [FloatText F]

/-- A line that sets a record sets one. -/
theorem countP_fills {config_table : List (LocParamS F)}
    (hnames : (config_table.map (·.param_name)).Nodup) {line : Bytes}
    (h : fills config_table line = true) :
    config_table.countP (fun e => fills [e] line) = 1 := by
  have hone := filled_eq line hnames
  rw [if_pos h] at hone
  rw [← hone]
  unfold loc_fill_conf_item
  cases hline : (configValue line : Option (LocParamV F)) with
  | none => simp [fills_of_none hline]
  | some v => simp [fills_of_some hline, set_eq_zero_iff]

theorem countP_or_add {α : Type*} (p q : α → Bool) (l : List α) :
    l.countP (fun a => p a || q a) + l.countP (fun a => p a && q a) =
      l.countP p + l.countP q := by
  induction l with
  | nil => rfl
  | cons a l ih =>
    simp only [List.countP_cons]
    cases p a <;> cases q a <;> simp <;> omega

/-- Lines that all set records set as many as there are lines exactly if no two of them set
the same one. -/
theorem recordsSet_eq_length_iff {config_table : List (LocParamS F)}
    (hnames : (config_table.map (·.param_name)).Nodup) {lines : List Bytes}
    (h : ∀ line ∈ lines, fills config_table line = true) :
    recordsSet config_table lines ≤ lines.length ∧
      (recordsSet config_table lines = lines.length ↔
        lines.Pairwise fun l l' =>
          ∀ e ∈ config_table, ¬ (fills [e] l = true ∧ fills [e] l' = true)) := by
  induction lines with
  | nil => simp [recordsSet]
  | cons line lines ih =>
    obtain ⟨hle, hiff⟩ := ih fun l hl => h l (List.mem_cons_of_mem _ hl)
    have hadd := countP_or_add (fun e => fills [e] line) (fun e => lines.any (fills [e]))
      config_table
    rw [countP_fills hnames (h line (List.mem_cons_self ..))] at hadd
    change recordsSet config_table (line :: lines) + _ = 1 + recordsSet config_table lines at hadd
    have hover : config_table.countP (fun e => fills [e] line && lines.any (fills [e])) = 0 ↔
        ∀ l ∈ lines, ∀ e ∈ config_table, ¬ (fills [e] line = true ∧ fills [e] l = true) := by
      rw [List.countP_eq_zero]
      simp only [Bool.and_eq_true, List.any_eq_true, not_and, not_exists]
      exact ⟨fun hh l hl e he h1 => hh e he h1 l hl, fun hh e he h1 l hl => hh l hl e he h1⟩
    rw [List.length_cons, List.pairwise_cons, ← hover, ← hiff]
    omega

/-! ## What it should do -/

/-- All lines that set a record are applied, each such record ends with a value that a line
gives it, the others stay, and the function returns how many records the lines set. -/
structure Correct (text : Bytes) (config_table : List (LocParamS F)) (u : Update F) : Prop where
  applied : u.calls.filter (fills config_table) =
    (bufferLines (cstr text)).filter (fills config_table)
  entries : List.Forall₂ (Applied (bufferLines (cstr text))) config_table u.config_table
  count : u.ret = (recordsSet config_table (bufferLines (cstr text)) : Nat)

/-- The lines that set a record are the ones that name it. -/
theorem applied_of_filter {config_table : List (LocParamS F)} {read file : List Bytes}
    (hread : read <+: file)
    (hfilter : read.filter (fills config_table) = file.filter (fills config_table))
    {e : LocParamS F} (he : e ∈ config_table) : Applied file e (read.foldl setEntry e) := by
  refine (applied_foldl read e).of_subset (fun l hl => hread.subset hl) ?_
  intro l hl hset
  have hmem : l ∈ file.filter (fills config_table) := List.mem_filter.mpr
    ⟨hl, fills_iff.mpr ⟨e, he, fills_singleton_iff.mpr hset⟩⟩
  rw [← hfilter] at hmem
  exact (List.mem_filter.mp hmem).1

theorem onePerLine_of_correct {text : Bytes} {config_table : List (LocParamS F)}
    (htext : text ≠ []) (htable : config_table ≠ [])
    (hnames : (config_table.map (·.param_name)).Nodup)
    (h : Correct text config_table (loc_update_conf (some text) text.length config_table)) :
    OnePerLine text config_table := by
  rw [loc_update_conf_eq htext htable hnames] at h
  have hcount : (taken config_table (cstr text)).length =
      recordsSet config_table (bufferLines (cstr text)) := Int.ofNat_inj.mp h.count
  have happlied : (taken config_table (cstr text)).filter (fills config_table) =
      (bufferLines (cstr text)).filter (fills config_table) := h.applied
  rw [← recordsSet_filter, ← happlied] at hcount
  obtain ⟨hle, -⟩ := recordsSet_eq_length_iff hnames (fun l hl => (List.mem_filter.mp hl).2 :
    ∀ l ∈ (taken config_table (cstr text)).filter (fills config_table), _)
  have hsub := List.length_filter_le (fills config_table) (taken config_table (cstr text))
  have hall : ∀ line ∈ taken config_table (cstr text), fills config_table line = true :=
    List.length_filter_eq_length_iff.mp (by omega)
  rw [List.filter_eq_self.mpr hall] at hcount
  have hdistinct := (recordsSet_eq_length_iff hnames hall).2.mp hcount.symm
  have htake : (bufferLines (cstr text)).take (config_table.length - 1) =
      taken config_table (cstr text) := take_eq_of_filter hall happlied
  exact ⟨htext, htake ▸ hall, htake ▸ hdistinct, drop_filter_iff.mp (htake ▸ happlied)⟩

theorem correct_of_onePerLine {text : Bytes} {config_table : List (LocParamS F)}
    (htable : config_table ≠ []) (hnames : (config_table.map (·.param_name)).Nodup)
    (h : OnePerLine text config_table) :
    Correct text config_table (loc_update_conf (some text) text.length config_table) := by
  rw [loc_update_conf_eq h.text_ne htable hnames]
  have htaken := taken_of_onePerLine h
  have hall : ∀ line ∈ taken config_table (cstr text), fills config_table line = true :=
    htaken ▸ h.first
  have hfilter : (taken config_table (cstr text)).filter (fills config_table) =
      (bufferLines (cstr text)).filter (fills config_table) := by
    rw [htaken]
    exact drop_filter_iff.mpr h.rest
  refine ⟨hfilter, ?_, ?_⟩
  · rw [List.forall₂_map_right_iff]
    exact List.forall₂_same.mpr fun e he =>
      applied_of_filter (linesRead_initial _ _ _) hfilter he
  · show ((taken config_table (cstr text)).length : Int) =
      (recordsSet config_table (bufferLines (cstr text)) : Nat)
    rw [← recordsSet_filter, ← hfilter, recordsSet_filter,
      (recordsSet_eq_length_iff hnames hall).2.mpr (htaken ▸ h.distinct)]

/-- **Updating from a buffer.** The function does what it should exactly if each of the first
lines sets a record of its own and the other lines set none. -/
theorem loc_update_conf_correct_iff (text : Bytes) {config_table : List (LocParamS F)}
    (htable : config_table ≠ []) (hnames : (config_table.map (·.param_name)).Nodup) :
    Correct text config_table (loc_update_conf (some text) text.length config_table) ↔
      OnePerLine text config_table := by
  by_cases htext : text = []
  · refine iff_of_false (fun h => ?_) (fun h => h.text_ne htext)
    have hcount := h.count
    rw [htext] at hcount
    exact absurd hcount (by simp [loc_update_conf])
  · exact ⟨onePerLine_of_correct htext htable hnames, correct_of_onePerLine htable hnames⟩

theorem loc_update_conf_correct_iff_one :
    Correct (bytesOf ['A', '=', '1']) twoNumbers
        (loc_update_conf (some (bytesOf ['A', '=', '1'])) 3 twoNumbers) ↔
      OnePerLine (bytesOf ['A', '=', '1']) twoNumbers :=
  loc_update_conf_correct_iff _ (by decide) (by decide)

/-- Each of the two lines names a record, and the second one is not applied. -/
theorem last_record_not_updated :
    let text := bytesOf ['A', '=', '1'] ++ [10] ++ bytesOf ['B', '=', '2'] ++ [10]
    let u := loc_update_conf (some text) text.length twoNumbers
    (twoNumbers.map (·.param_name)).Nodup ∧
      bytesOf ['B', '=', '2'] ∈ bufferLines (cstr text) ∧
      fills twoNumbers (bytesOf ['B', '=', '2']) = true ∧
      u = ⟨1, [bytesOf ['A', '=', '1']],
        [⟨bytesOf ['A'], some (.number 1), some 1, 110⟩,
          ⟨bytesOf ['B'], some (.number 9), some 7, 110⟩]⟩ ∧
      ¬ Correct text twoNumbers u := by
  intro text u
  refine ⟨by decide, by decide, by decide, by decide, fun h => ?_⟩
  exact absurd h.count (by decide)

end Correct

end DeviceHal.Utils.LocCfgUpdate
