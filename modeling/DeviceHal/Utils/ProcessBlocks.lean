import DeviceHal.Lib.Loop
import DeviceHal.Utils.LauncherConf
import DeviceHal.Utils.LocCfgUpdate
import DeviceHal.Utils.ProcessEntry

/-! # Process blocks

`loc_read_process_conf` reads a file of process blocks. Nothing delimits them:
a round reads lines until as many parameters have been set as the table has,
into one structure that is never cleared. A value that does not fit its field
is written over the end of it, which is a fault here. -/
namespace DeviceHal.Utils.ProcessBlocks
open DeviceHal.Lib.CText DeviceHal.Lib.Loop DeviceHal.Utils.LocCfg DeviceHal.Utils.LocCfgUpdate
open DeviceHal.Utils.ProcessEntry
open DeviceHal.Utils.LauncherConf (Memory ProcessParam ParamType asTable Fits fillLine
  fillLine_refines loc_process_conf_parameter_table)

variable {F : Type}

/-! ## The structure -/

/-- The entries with what the members of the structure hold. -/
abbrev Contents (F : Type) := List (LocParamS F)

/-- A variable of the type. -/
def HoldsType : ParamType → Variable F → Prop
  | .s, .string _ => True
  | .n, .number _ => True
  | _, _ => False

/-- The entry of the table with a value. -/
def IsEntry (e : ProcessParam) (p : LocParamS F) : Prop :=
  p.param_name = e.param_name ∧ p.param_type = e.param_type.char ∧ p.param_set = none ∧
    ∃ x, p.param_ptr = some x ∧ HoldsType e.param_type x

/-- A possible content of the structure. -/
def IsContents (t : Contents F) : Prop :=
  List.Forall₂ IsEntry loc_process_conf_parameter_table t

def blankEntry (e : ProcessParam) : LocParamS F where
  param_name := e.param_name
  param_ptr := some (match e.param_type with
    | .s => .string []
    | .n => .number 0)
  param_set := none
  param_type := e.param_type.char

/-- The structure when the program starts. -/
def blank : Contents F := loc_process_conf_parameter_table.map blankEntry

def stringAt (t : Contents F) (i : Nat) : Bytes :=
  match t[i]?.bind (·.param_ptr) with
  | some (.string text) => text
  | _ => []

def numberAt (t : Contents F) (i : Nat) : Int :=
  match t[i]?.bind (·.param_ptr) with
  | some (.number v) => v
  | _ => 0

def confOf (t : Contents F) : Conf where
  proc_name := stringAt t 0
  proc_argument := stringAt t 1
  proc_status := stringAt t 2
  group_list := stringAt t 3
  premium_feature := numberAt t 4
  loc_feature_mask := numberAt t 5
  platform_list := stringAt t 6
  baseband := stringAt t 7
  auto_platform := stringAt t 8

/-! ## Reading -/

section Read
variable [FloatText F]

/-- The line gives a string parameter of the table a value that does not fit. -/
def overruns (t : Contents F) (line : Bytes) : Bool :=
  match (configValue line : Option (LocParamV F)) with
  | some v => LOC_MAX_PARAM_STRING ≤ v.param_str_value.length &&
      t.any fun e => e.param_name = v.param_name && e.param_type = 115
  | none => false

/-- `loc_fill_conf_item` on the fields of the structure. -/
def fillFields (input_buf : Bytes) (t : Contents F) : Option (Nat × Contents F) :=
  if overruns t input_buf then none else some (loc_fill_conf_item input_buf t)

/-- What is left of the file, and the structure. -/
def loc_read_conf_r (conf_fp : Bytes) (t : Contents F) : Option (Bytes × Contents F) :=
  readFrom fillFields conf_fp t

/-- `conf.proc_name[0] = 0`. -/
def clearName (t : Contents F) : Contents F :=
  t.modifyHead fun e => { e with param_ptr := e.param_ptr.map fun _ => .string [] }

/-- The loop that counts the processes, by their names only; `proc_list_length` is an
`unsigned char`. A name that is not empty takes a character of the file. -/
def countLoop : Nat → Bytes → Contents F → Nat → Option (Nat × Contents F)
  | 0, _, t, proc_list_length => some (proc_list_length, t)
  | fuel + 1, conf_fp, t, proc_list_length =>
    let t := clearName t
    match loc_read_conf_r conf_fp (t.take 1) with
    | none => none
    | some (conf_fp, name) =>
      let t := name ++ t.drop 1
      if stringAt t 0 = [] then some (proc_list_length, t)
      else countLoop fuel conf_fp t ((proc_list_length + 1) % 256)

/-- Where a round starts: the file, the structure and the entries before. -/
structure Round (F : Type) where
  conf_fp : Bytes
  contents : Contents F
  child_proc : List ProcessInfo

/-- A list that has been split is cut at its first space. -/
def cutList (e : LocParamS F) : LocParamS F :=
  { e with
    param_ptr := e.param_ptr.map fun
      | .string list => .string (cstr (loc_util_split_string list MAX_NUM_STRINGS 32).2)
      | x => x }

/-- The structure when the entry has been made. -/
def cutLists (t : Contents F) : Contents F :=
  if (confOf t).handled then t.mapIdx fun i e => if i = 3 ∨ 6 ≤ i then cutList e else e else t

def processBlock (env : Settings) (s : Round F) : Option (Round F) :=
  match loc_read_conf_r s.conf_fp s.contents with
  | none => none
  | some (conf_fp, t) =>
    some ⟨conf_fp, cutLists t, s.child_proc ++ [childProc env (confOf t)]⟩

/-- The structure and the file when round `j` starts. -/
def atRound (env : Settings) (file : Bytes) (t : Contents F) (j : Nat) : Option (Round F) :=
  countUp (fun s _ => processBlock env s) j ⟨file, t, []⟩

structure ProcessTable where
  ret : Int
  process_count : Nat
  process_info_table : Option (List ProcessInfo)
deriving DecidableEq

/-- The file is `none` if it cannot be opened. -/
def loc_read_process_conf (env : Settings) (conf_fp : Option Bytes) (t : Contents F) :
    Option ProcessTable :=
  match conf_fp with
  | none => some ⟨-1, 0, none⟩
  | some file =>
    match countLoop (file.length + 1) file t 0 with
    | none => none
    | some (proc_list_length, t) =>
      (atRound env file t proc_list_length).map fun s =>
        ⟨0, proc_list_length, some s.child_proc⟩

end Read

/-! ## The lines that `fgets` takes -/

def piecesLoop : Nat → Bytes → List Bytes
  | 0, _ => []
  | fuel + 1, file =>
    match fgets LOC_MAX_PARAM_LINE file with
    | none => []
    | some (line, rest) => line :: piecesLoop fuel rest

/-- The file as the reader sees it. -/
def pieces (file : Bytes) : List Bytes := piecesLoop file.length file

theorem fgets_shorter {file : Bytes} (hfile : file ≠ []) :
    ∃ line rest, fgets LOC_MAX_PARAM_LINE file = some (line, rest) ∧
      rest.length < file.length := by
  refine ⟨_, _, if_neg hfile, ?_⟩
  have hpos := lineLength_pos hfile
  have hlen := List.length_pos_iff.mpr hfile
  have hsize : 0 < LOC_MAX_PARAM_LINE - 1 := by decide
  rw [List.length_drop]
  omega

theorem piecesLoop_eq {fuel : Nat} {file : Bytes} (hfuel : file.length ≤ fuel) :
    piecesLoop fuel file = pieces file := by
  induction fuel using Nat.strong_induction_on generalizing file with
  | _ fuel ih =>
    by_cases hfile : file = []
    · rw [hfile]
      cases fuel <;> rfl
    · obtain ⟨line, rest, hget, hlen⟩ := fgets_shorter hfile
      obtain ⟨fuel, rfl⟩ : ∃ f, fuel = f + 1 := ⟨fuel - 1, by omega⟩
      obtain ⟨n, hn⟩ : ∃ n, file.length = n + 1 := ⟨file.length - 1, by omega⟩
      rw [pieces, hn, piecesLoop, piecesLoop, hget]
      show line :: piecesLoop fuel rest = line :: piecesLoop n rest
      rw [ih fuel (Nat.lt_succ_self _) (by omega), ih n (by omega) (by omega)]

theorem pieces_eq {file line rest : Bytes}
    (hget : fgets LOC_MAX_PARAM_LINE file = some (line, rest)) :
    pieces file = line :: pieces rest := by
  have hfile : file ≠ [] := by
    rintro rfl
    cases hget
  obtain ⟨line', rest', hget', hlen⟩ := fgets_shorter hfile
  rw [hget] at hget'
  obtain ⟨rfl, rfl⟩ := Prod.mk.inj (Option.some.inj hget')
  obtain ⟨n, hn⟩ : ∃ n, file.length = n + 1 := ⟨file.length - 1, by omega⟩
  rw [pieces, hn, piecesLoop, hget]
  show line :: piecesLoop n rest = _
  rw [piecesLoop_eq (by omega)]

/-! ## Contents of one shape -/

/-- What the reader asks of an entry. -/
def shapeOf (p : LocParamS F) : Bytes × UInt8 × Bool := (p.param_name, p.param_type, p.settable)

theorem IsEntry.shapeOf_eq {e : ProcessParam} {p : LocParamS F} (h : IsEntry e p) :
    shapeOf p = (e.param_name, e.param_type.char, true) := by
  obtain ⟨hname, htype, -, x, hx, -⟩ := h
  unfold shapeOf LocParamS.settable
  rw [hname, htype, hx]
  cases e.param_type <;> rfl

theorem map_shapeOf_eq {entries : List ProcessParam} {t : Contents F}
    (h : List.Forall₂ IsEntry entries t) :
    t.map shapeOf = entries.map fun e => (e.param_name, e.param_type.char, true) := by
  induction h with
  | nil => rfl
  | cons hentry _ ih => rw [List.map_cons, List.map_cons, hentry.shapeOf_eq, ih]

/-- The table has no validity bits to clear. -/
theorem map_clear_eq {entries : List ProcessParam} {t : Contents F}
    (h : List.Forall₂ IsEntry entries t) : t.map LocParamS.clear = t := by
  induction h with
  | nil => rfl
  | @cons e p _ _ hentry _ ih =>
    have hset : p.clear = p := by
      show { p with param_set := p.param_set.map fun _ => 0 } = p
      rw [hentry.2.2.1]
      exact congrArg (LocParamS.mk _ _ · _) hentry.2.2.1.symm
    rw [List.map_cons, ih, hset]

theorem nodup_names {entries : List ProcessParam} {t : Contents F}
    (h : List.Forall₂ IsEntry entries t) (hnodup : (entries.map (·.param_name)).Nodup) :
    (t.map (·.param_name)).Nodup := by
  have hnames := congrArg (List.map Prod.fst) (map_shapeOf_eq h)
  rw [List.map_map, List.map_map] at hnames
  exact (show t.map (·.param_name) = entries.map (·.param_name) from hnames) ▸ hnodup

theorem isEntry_blankEntry (e : ProcessParam) : IsEntry e (blankEntry e : LocParamS F) := by
  refine ⟨rfl, rfl, rfl, _, rfl, ?_⟩
  cases e.param_type <;> trivial

theorem isContents_blank : IsContents (blank : Contents F) := by
  rw [IsContents, blank, List.forall₂_map_right_iff, List.forall₂_same]
  exact fun e _ => isEntry_blankEntry e

theorem isContents_asTable (conf : Memory) : IsContents (asTable conf : Contents F) := by
  rw [IsContents, asTable, List.forall₂_map_right_iff, List.forall₂_same]
  intro e _
  refine ⟨rfl, rfl, rfl, _, rfl, ?_⟩
  cases e.param_type <;> trivial

theorem IsContents.shape_eq {t t' : Contents F} (h : IsContents t) (h' : IsContents t') :
    t.map shapeOf = t'.map shapeOf := (map_shapeOf_eq h).trans (map_shapeOf_eq h').symm

theorem IsContents.nodup {t : Contents F} (h : IsContents t) :
    (t.map (·.param_name)).Nodup :=
  nodup_names h (by decide)

theorem IsContents.length_eq {t : Contents F} (h : IsContents t) :
    t.length = loc_process_conf_parameter_table.length := (List.Forall₂.length_eq h).symm

/-- Another value of the same type. -/
def otherValue : Variable F → Variable F
  | .string text => .string (text ++ [0])
  | .number v => .number (v + 1)
  | x => x

def alter (p : LocParamS F) : LocParamS F := { p with param_ptr := p.param_ptr.map otherValue }

theorem otherValue_spec {ty : ParamType} {x : Variable F} (h : HoldsType ty x) :
    HoldsType ty (otherValue x) ∧ otherValue x ≠ x := by
  cases x with
  | string text => exact ⟨by cases ty <;> exact h, by simp [otherValue]⟩
  | number v => exact ⟨by cases ty <;> exact h, by simp [otherValue]⟩
  | double x => cases ty <;> exact h.elim

theorem alter_spec {e : ProcessParam} {p : LocParamS F} (h : IsEntry e p) :
    IsEntry e (alter p) ∧ alter p ≠ p := by
  obtain ⟨hname, htype, hset, x, hx, hholds⟩ := h
  obtain ⟨hother, hne⟩ := otherValue_spec hholds
  refine ⟨⟨hname, htype, hset, _, congrArg (Option.map otherValue) hx, hother⟩, fun heq => ?_⟩
  have hptr : p.param_ptr.map otherValue = p.param_ptr := congrArg LocParamS.param_ptr heq
  rw [hx] at hptr
  exact hne (Option.some.inj hptr)

theorem fills_congr {t t' : Contents F} (h : t.map shapeOf = t'.map shapeOf) (line : Bytes) :
    fills t line = fills t' line := by
  have hany : ∀ t : Contents F, fills t line = (t.map shapeOf).any fun s =>
      decide (s.2.2 = true ∧ ∃ value, Setting line s.1 value) := by
    intro t
    rw [List.any_map]
    rfl
  rw [hany, hany, h]

theorem fills_shape {p q : LocParamS F} (hshape : shapeOf p = shapeOf q) (line : Bytes) :
    fills [p] line = fills [q] line :=
  fills_congr (by rw [List.map_singleton, List.map_singleton, hshape]) line

section Shape
variable [FloatText F]

theorem overruns_congr {t t' : Contents F} (h : t.map shapeOf = t'.map shapeOf) (line : Bytes) :
    overruns t line = overruns t' line := by
  have hany : ∀ (t : Contents F) (v : LocParamV F),
      (t.any fun e => decide (e.param_name = v.param_name) && decide (e.param_type = 115)) =
        (t.map shapeOf).any fun s => decide (s.1 = v.param_name) && decide (s.2.1 = 115) := by
    intro t v
    rw [List.any_map]
    rfl
  unfold overruns
  simp only [hany, h]

theorem map_shapeOf_fill (line : Bytes) (t : Contents F) :
    (loc_fill_conf_item line t).2.map shapeOf = t.map shapeOf := by
  unfold loc_fill_conf_item
  cases (configValue line : Option (LocParamV F)) with
  | none => rfl
  | some v =>
    rw [List.map_map]
    refine List.map_congr_left fun e _ => ?_
    obtain ⟨hname, htype, hset, -⟩ := set_fixed e v
    exact Prod.ext hname (Prod.ext htype hset)

/-- A line leaves an entry of the table an entry of the table. -/
theorem IsEntry.setEntry {e : ProcessParam} {p : LocParamS F} (h : IsEntry e p) (line : Bytes) :
    IsEntry e (setEntry p line) := by
  unfold LocCfg.setEntry
  cases (configValue line : Option (LocParamV F)) with
  | none => exact h
  | some v =>
    show IsEntry e (LocCfg.loc_set_config_entry p v).2
    rw [loc_set_config_entry_eq]
    split
    · obtain ⟨hname, htype, hset, -⟩ := h
      refine ⟨hname, htype, by rw [hset]; rfl, ?_⟩
      show ∃ x, v.converted p.param_type = some x ∧ _
      rw [htype]
      cases e.param_type with
      | s =>
        show ∃ x, v.converted 115 = some x ∧ _
        rw [LocParamV.converted, if_pos rfl]
        split <;> exact ⟨_, rfl, trivial⟩
      | n => exact ⟨_, rfl, trivial⟩
    · exact h

theorem IsContents.fillAll {t : Contents F} (h : IsContents t) (read : List Bytes) :
    IsContents (fillAll read t) := by
  rw [fillAll_eq, IsContents, List.forall₂_map_right_iff]
  refine List.Forall₂.imp (fun e p hp => ?_) h
  induction read generalizing p with
  | nil => exact hp
  | cons line read ih => exact ih _ (hp.setEntry line)

end Shape

/-! ## One round of the reader -/

section Reader
variable [FloatText F]

/-- The reader takes the lines up to the one that sets the last parameter; it fails if one
of them does not fit. -/
theorem readLoop_eq_pieces {fuel : Nat} (num_params : Nat) {conf_fp : Bytes}
    (hfuel : conf_fp.length < fuel) {t : Contents F} (hnames : (t.map (·.param_name)).Nodup) :
    ∃ rest, pieces rest = (pieces conf_fp).drop (linesRead t num_params (pieces conf_fp)).length ∧
      readLoop fillFields fuel num_params conf_fp t =
        if (linesRead t num_params (pieces conf_fp)).any (overruns t) then none
        else some (rest, fillAll (linesRead t num_params (pieces conf_fp)) t) := by
  induction fuel generalizing num_params conf_fp t with
  | zero => omega
  | succ fuel ih =>
    cases num_params with
    | zero => exact ⟨conf_fp, by cases pieces conf_fp <;> rfl, by cases pieces conf_fp <;> rfl⟩
    | succ n =>
      by_cases hfile : conf_fp = []
      · subst hfile
        exact ⟨[], rfl, rfl⟩
      · obtain ⟨line, more, hget, hlen⟩ := fgets_shorter hfile
        have hsub : unsignedSub (n + 1) (if fills t line then 1 else 0) =
            if fills t line then n else n + 1 := by
          split <;> rfl
        have hshape := map_shapeOf_fill line t
        have hnames' : ((loc_fill_conf_item line t).2.map (·.param_name)).Nodup := by
          rwa [names_fill]
        obtain ⟨rest, hrest, hrun⟩ := ih (if fills t line then n else n + 1)
          (show more.length < fuel by omega) hnames'
        rw [linesRead_congr (fills_fill line t)] at hrest hrun
        rw [pieces_eq hget, linesRead, List.length_cons, List.drop_succ_cons, List.any_cons]
        refine ⟨rest, hrest, ?_⟩
        have hover : overruns (loc_fill_conf_item line t).2 = overruns t :=
          funext (overruns_congr hshape)
        rw [readLoop, if_neg (Nat.succ_ne_zero n), hget]
        show (fillFields line t).bind (fun next => readLoop fillFields fuel
          (unsignedSub (n + 1) next.1) more next.2) = _
        rw [fillFields]
        cases overruns t line with
        | true => rfl
        | false =>
          show readLoop fillFields fuel (unsignedSub (n + 1) (loc_fill_conf_item line t).1) more
            (loc_fill_conf_item line t).2 = _
          rw [filled_eq line hnames, hsub, hrun, hover]
          rfl

/-- How many parameters a round sets. -/
abbrev numParams : Nat := loc_process_conf_parameter_table.length

/-- With lines that all set a parameter a round takes as many lines as there are parameters. -/
theorem loc_read_conf_r_eq_pieces {t : Contents F} (h : IsContents t) (conf_fp : Bytes)
    (hfill : ∀ line ∈ (pieces conf_fp).take numParams, fills (blank : Contents F) line = true) :
    ∃ rest, pieces rest = (pieces conf_fp).drop numParams ∧
      loc_read_conf_r conf_fp t =
        if ((pieces conf_fp).take numParams).any (overruns (blank : Contents F)) then none
        else some (rest, fillAll ((pieces conf_fp).take numParams) t) := by
  have hshape := h.shape_eq isContents_blank
  obtain ⟨rest, hrest, hrun⟩ := readLoop_eq_pieces numParams (Nat.lt_succ_self conf_fp.length)
    h.nodup
  have htake : linesRead t numParams (pieces conf_fp) = (pieces conf_fp).take numParams :=
    linesRead_of_fills fun line hline => by rw [fills_congr hshape]; exact hfill line hline
  rw [htake] at hrest hrun
  rw [show overruns t = overruns blank from funext (overruns_congr hshape)] at hrun
  refine ⟨rest, ?_, ?_⟩
  · rw [hrest, List.length_take]
    rcases Nat.le_total numParams (pieces conf_fp).length with hle | hle
    · rw [Nat.min_eq_left hle]
    · rw [Nat.min_eq_right hle, List.drop_length, List.drop_of_length_le hle]
  · rw [loc_read_conf_r, readFrom, map_clear_eq h, h.length_eq, hrun]

/-! ## Which entries the lines set -/

/-- A line that sets an entry makes of it the same, whatever it held. -/
theorem setEntry_congr {p q : LocParamS F} (hshape : shapeOf p = shapeOf q)
    (hset : p.param_set = q.param_set) {line : Bytes} (hfills : fills [p] line = true) :
    LocCfg.setEntry p line = LocCfg.setEntry q line := by
  obtain ⟨hsettable, value, hsetting⟩ := fills_singleton_iff.mp hfills
  have hv := hsetting.configValue_eq (F := F)
  have hname' : q.param_name = p.param_name := (congrArg Prod.fst hshape).symm
  have htype : q.param_type = p.param_type := (congrArg (·.2.1) hshape).symm
  have hsettable' : q.settable = p.settable := (congrArg (·.2.2) hshape).symm
  rw [setEntry_eq hv, setEntry_eq hv, loc_set_config_entry_eq, loc_set_config_entry_eq,
    if_pos ⟨(parsed_param_name ..).symm, hsettable⟩,
    if_pos ⟨hname'.trans (parsed_param_name ..).symm, hsettable'.trans hsettable⟩]
  show LocParamS.mk _ _ _ _ = LocParamS.mk _ _ _ _
  rw [hname', htype, hset]

theorem foldl_unnamed {read : List Bytes} {p : LocParamS F}
    (h : ∀ line ∈ read, fills [p] line ≠ true) : read.foldl LocCfg.setEntry p = p :=
  (applied_foldl read p).kept fun ⟨line, hline, hset⟩ =>
    h line hline (fills_singleton_iff.mpr hset)

/-- What the last line makes of an entry does not depend on what the entry held. -/
theorem foldl_named {e : ProcessParam} {p q : LocParamS F} (hp : IsEntry e p) (hq : IsEntry e q)
    {read : List Bytes} (h : ∃ line ∈ read, fills [p] line = true) :
    read.foldl LocCfg.setEntry p = read.foldl LocCfg.setEntry q := by
  have hentry : ∀ {p : LocParamS F}, IsEntry e p → ∀ read : List Bytes,
      IsEntry e (read.foldl LocCfg.setEntry p) := by
    intro p hp read
    induction read generalizing p with
    | nil => exact hp
    | cons line read ih => exact ih (hp.setEntry line)
  induction read using List.reverseRecOn with
  | nil =>
    obtain ⟨line, hline, -⟩ := h
    exact absurd hline List.not_mem_nil
  | append_singleton read line ih =>
    rw [List.foldl_append, List.foldl_append]
    show LocCfg.setEntry _ line = LocCfg.setEntry _ line
    have hp' := hentry hp read
    have hq' := hentry hq read
    by_cases hlast : fills [p] line = true
    · refine setEntry_congr (hp'.shapeOf_eq.trans hq'.shapeOf_eq.symm)
        (hp'.2.2.1.trans hq'.2.2.1.symm) ?_
      rwa [fills_shape (hp'.shapeOf_eq.trans hp.shapeOf_eq.symm)]
    · rw [ih]
      obtain ⟨l, hl, hset⟩ := h
      rcases List.mem_append.mp hl with hl | hl
      · exact ⟨l, hl, hset⟩
      · rw [List.mem_singleton.mp hl] at hset
        exact absurd hset hlast

/-- Every entry is set by one of the lines. -/
def SetsAll (F : Type) [FloatText F] (read : List Bytes) : Prop :=
  ∀ e ∈ loc_process_conf_parameter_table,
    ∃ line ∈ read, fills [(blankEntry e : LocParamS F)] line = true

/-- Lines that set every entry leave nothing of what the structure held. -/
theorem fillAll_eq_of_setsAll {read : List Bytes} (h : SetsAll F read) {t t' : Contents F}
    (ht : IsContents t) (ht' : IsContents t') : fillAll read t = fillAll read t' := by
  rw [fillAll_eq, fillAll_eq]
  have hall : ∀ entries : List ProcessParam, (∀ e ∈ entries, e ∈ loc_process_conf_parameter_table) →
      ∀ t t' : Contents F, List.Forall₂ IsEntry entries t → List.Forall₂ IsEntry entries t' →
        t.map (fun p => read.foldl LocCfg.setEntry p) =
          t'.map fun p => read.foldl LocCfg.setEntry p := by
    intro entries
    induction entries with
    | nil =>
      intro _ t t' ht ht'
      cases ht
      cases ht'
      rfl
    | cons e entries ih =>
      intro hmem t t' ht ht'
      cases ht with
      | cons hp ht =>
        cases ht' with
        | cons hq ht' =>
          obtain ⟨line, hline, hset⟩ := h e (hmem e (List.mem_cons_self ..))
          rw [List.map_cons, List.map_cons,
            ih (fun e he => hmem e (List.mem_cons_of_mem _ he)) _ _ ht ht']
          congr 1
          refine foldl_named hp hq ⟨line, hline, ?_⟩
          rwa [fills_shape (hp.shapeOf_eq.trans (isEntry_blankEntry e).shapeOf_eq.symm)]
  exact hall _ (fun _ h => h) t t' ht ht'

/-- Lines that leave the same whatever the structure held set every entry. -/
theorem setsAll_of_fillAll_eq {read : List Bytes} {t : Contents F} (ht : IsContents t)
    (h : ∀ t', IsContents t' → fillAll read t' = fillAll read t) : SetsAll F read := by
  intro e he
  by_contra hnone
  obtain ⟨i, hi, hget⟩ := List.mem_iff_getElem.mp he
  have hit : i < t.length := ht.length_eq ▸ hi
  have hentry : IsEntry e t[i] := by
    rw [← hget]
    exact List.Forall₂.get ht hi hit
  have hkept : ∀ p : LocParamS F, IsEntry e p → read.foldl LocCfg.setEntry p = p := by
    intro p hp
    refine foldl_unnamed fun line hline hset => hnone ⟨line, hline, ?_⟩
    rwa [← fills_shape (hp.shapeOf_eq.trans (isEntry_blankEntry e).shapeOf_eq.symm)]
  obtain ⟨halter, hne⟩ := alter_spec hentry
  have ht' : IsContents (t.set i (alter t[i])) := by
    refine List.forall₂_iff_get.mpr ⟨by rw [List.length_set, ht.length_eq], fun k hk hk' => ?_⟩
    rw [List.length_set] at hk'
    have hold := List.Forall₂.get ht hk hk'
    simp only [List.get_eq_getElem, List.getElem_set] at hold ⊢
    split
    · rename_i hik
      subst hik
      rwa [hget]
    · exact hold
  have hsame := h _ ht'
  rw [fillAll_eq, fillAll_eq] at hsame
  have hat := congrArg (·[i]?) hsame
  simp only [List.getElem?_map, List.getElem?_set_self hit, List.getElem?_eq_getElem hit,
    Option.map_some, Option.some.injEq] at hat
  rw [hkept _ halter, hkept _ hentry] at hat
  exact hne hat

/-! ## Blocks -/

/-- The entry of the process name. -/
def nameEntry : LocParamS F :=
  blankEntry ⟨bytesOf "PROCESS_NAME".toList, .proc_name, .s⟩

/-- A block begins with the name of a process and sets different parameters. -/
structure IsBlock (F : Type) [FloatText F] (block : List Bytes) : Prop where
  head : ∃ line ∈ block.head?, fills [(nameEntry : LocParamS F)] line = true
  lines : ∀ line ∈ block, fills (blank : Contents F) line = true
  distinct : block.Pairwise fun l l' =>
    ∀ p ∈ (blank : Contents F), ¬ (fills [p] l = true ∧ fills [p] l' = true)

/-- The lines set as many parameters as there are exactly if they are as many. -/
theorem setsAll_iff {read : List Bytes}
    (hlines : ∀ line ∈ read, fills (blank : Contents F) line = true)
    (hlen : read.length ≤ numParams) :
    SetsAll F read ↔ read.length = numParams ∧ read.Pairwise fun l l' =>
      ∀ p ∈ (blank : Contents F), ¬ (fills [p] l = true ∧ fills [p] l' = true) := by
  obtain ⟨hle, hiff⟩ := recordsSet_eq_length_iff isContents_blank.nodup hlines
  have hall : SetsAll F read ↔ recordsSet (blank : Contents F) read = numParams := by
    have hcount : (blank : Contents F).length = numParams := isContents_blank.length_eq
    rw [recordsSet, ← hcount, List.countP_eq_length]
    simp only [blank, List.mem_map, forall_exists_index, and_imp, forall_apply_eq_imp_iff₂,
      List.any_eq_true]
    rfl
  rw [hall, ← hiff]
  omega

/-! ### The structure in memory -/

theorem not_overruns_of_fits {line : Bytes} (h : Fits (F := F) line) (t : Contents F) :
    overruns t line = false := by
  unfold overruns
  cases hv : (configValue line : Option (LocParamV F)) with
  | none => rfl
  | some v => simp [Nat.not_le.mpr (h v hv)]

/-- Lines that fit do the same to the fields as to the memory that the structure is in. -/
theorem fillAll_asTable {read : List Bytes} (hfits : ∀ line ∈ read, Fits (F := F) line)
    (conf : Memory) : fillAll read (asTable conf : Contents F) =
      asTable (read.foldl (fun conf line => fillLine (F := F) line conf) conf) := by
  induction read generalizing conf with
  | nil => rfl
  | cons line read ih =>
    obtain ⟨hline, hread⟩ := List.forall_mem_cons.mp hfits
    rw [List.foldl_cons, ← ih hread, fillLine_refines hline]
    rfl

/-- **A round in memory.** Where the values fit, the reader of the fields is the reader of the
one structure that they lie in. -/
theorem loc_read_conf_r_asTable (conf : Memory) (conf_fp : Bytes)
    (hfill : ∀ line ∈ (pieces conf_fp).take numParams, fills (blank : Contents F) line = true)
    (hfits : ∀ line ∈ (pieces conf_fp).take numParams, Fits (F := F) line) :
    ∃ rest, pieces rest = (pieces conf_fp).drop numParams ∧
      loc_read_conf_r conf_fp (asTable conf : Contents F) =
        some (rest, asTable (((pieces conf_fp).take numParams).foldl
          (fun conf line => fillLine (F := F) line conf) conf)) := by
  obtain ⟨rest, hrest, hread⟩ :=
    loc_read_conf_r_eq_pieces (isContents_asTable conf) conf_fp hfill
  refine ⟨rest, hrest, ?_⟩
  have hover : ¬ ((pieces conf_fp).take numParams).any (overruns (blank : Contents F)) = true := by
    rw [List.any_eq_true]
    rintro ⟨line, hline, htrue⟩
    rw [not_overruns_of_fits (hfits line hline)] at htrue
    cases htrue
  rw [hread, if_neg hover, fillAll_asTable hfits]

end Reader

theorem nameEntry_mem_blank : (nameEntry : LocParamS F) ∈ (blank : Contents F) :=
  List.mem_cons_self ..

/-- The reader looks for the next name. -/
theorem linesRead_name {p : LocParamS F} (hp : shapeOf p = shapeOf (nameEntry : LocParamS F))
    {junk : List Bytes} (hjunk : ∀ line ∈ junk, fills [(nameEntry : LocParamS F)] line = false)
    {line : Bytes} (hline : fills [(nameEntry : LocParamS F)] line = true) (rest : List Bytes) :
    linesRead [p] 1 (junk ++ line :: rest) = junk ++ [line] := by
  induction junk with
  | nil =>
    rw [List.nil_append, linesRead, fills_shape hp, if_pos hline]
    cases rest <;> rfl
  | cons other junk ih =>
    rw [List.cons_append, linesRead, fills_shape hp, hjunk other (List.mem_cons_self ..),
      if_neg Bool.false_ne_true, ih fun l hl => hjunk l (List.mem_cons_of_mem _ hl)]
    rfl

/-! ## Counting -/

/-- The name is cleared before the reader looks for it. -/
theorem clearName_eq {t : Contents F} (h : IsContents t) :
    ∃ rest, clearName t = nameEntry :: rest ∧
      ∀ p, IsEntry ⟨bytesOf "PROCESS_NAME".toList, .proc_name, .s⟩ p → IsContents (p :: rest) := by
  cases h with
  | @cons _ p _ rest hp hrest =>
    refine ⟨rest, ?_, fun p hp => List.Forall₂.cons hp hrest⟩
    obtain ⟨hname, htype, hset, x, hx, -⟩ := hp
    show { p with param_ptr := p.param_ptr.map fun _ => .string [] } :: rest = _
    rw [hname, htype, hset, hx]
    rfl

section Count
variable [FloatText F]

theorem flatten_pieces (file : Bytes) : (pieces file).flatten = file := by
  induction hn : file.length using Nat.strong_induction_on generalizing file with
  | _ n ih =>
    by_cases hfile : file = []
    · rw [hfile]
      rfl
    · obtain ⟨line, rest, hget, hlen⟩ := fgets_shorter hfile
      rw [pieces_eq hget, List.flatten_cons, ih rest.length (hn ▸ hlen) rest rfl]
      rw [fgets, if_neg hfile] at hget
      obtain ⟨rfl, rfl⟩ := Prod.mk.inj (Option.some.inj hget)
      exact List.take_append_drop _ _

theorem value_ne_nil {line : Bytes} {v : LocParamV F} (hv : configValue line = some v) :
    v.param_str_value ≠ [] := by
  obtain ⟨name, value, hsetting, rfl⟩ := configValue_eq_some_iff.mp hv
  rw [parsed_param_str_value]
  exact hsetting.value_ne_nil

/-- The name that the line gives is NULL. -/
def nameIsNull (F : Type) [FloatText F] (line : Bytes) : Bool :=
  match (configValue line : Option (LocParamV F)) with
  | some v => v.param_str_value = bytesOf ['N', 'U', 'L', 'L']
  | none => false

/-- What the counting loop makes of the blocks: it ends at the first name that is NULL. -/
def countNames (F : Type) [FloatText F] : List (List Bytes) → Nat → Option Nat
  | [], n => some n
  | block :: blocks, n =>
    match block.head? with
    | none => some n
    | some line =>
      if overruns [(nameEntry : LocParamS F)] line then none
      else if nameIsNull F line then some n
      else countNames F blocks ((n + 1) % 256)

theorem fills_of_overruns {e : ProcessParam} {line : Bytes}
    (h : overruns [(blankEntry e : LocParamS F)] line = true) :
    fills [(blankEntry e : LocParamS F)] line = true := by
  unfold overruns at h
  cases hv : (configValue line : Option (LocParamV F)) with
  | none => rw [hv] at h; cases h
  | some v =>
    rw [hv] at h
    rw [fills_of_some hv]
    have hset : (blankEntry e : LocParamS F).settable = true :=
      congrArg (·.2.2) (isEntry_blankEntry (F := F) e).shapeOf_eq
    simp only [Bool.and_eq_true, List.any_cons, List.any_nil, Bool.or_false,
      decide_eq_true_eq] at h
    simp [h.2.1, hset]

/-- The entry holds a name after the line exactly if the name is not NULL. -/
theorem stringAt_setEntry {line : Bytes} (hline : fills [(nameEntry : LocParamS F)] line = true)
    (rest : Contents F) :
    stringAt (LocCfg.setEntry nameEntry line :: rest) 0 = [] ↔ nameIsNull F line = true := by
  obtain ⟨hsettable, value, hsetting⟩ := fills_singleton_iff.mp hline
  obtain ⟨v, hv, hname⟩ : ∃ v : LocParamV F, configValue line = some v ∧
      v.param_name = (nameEntry : LocParamS F).param_name :=
    ⟨_, hsetting.configValue_eq, parsed_param_name ..⟩
  have hset : LocCfg.setEntry (nameEntry : LocParamS F) line =
      { (nameEntry : LocParamS F) with param_ptr := v.converted 115 } := by
    rw [setEntry_eq hv, loc_set_config_entry_eq, if_pos ⟨hname.symm, hsettable⟩]
    rfl
  rw [hset]
  unfold nameIsNull stringAt
  rw [hv, LocParamV.converted, if_pos rfl]
  by_cases hnull : v.param_str_value = bytesOf ['N', 'U', 'L', 'L']
  · rw [if_pos hnull]
    exact iff_of_true rfl (decide_eq_true hnull)
  · rw [if_neg hnull]
    refine iff_of_false ?_ (by simpa using hnull)
    show strlcpy _ _ ≠ []
    rw [strlcpy, cstr_eq (LauncherConf.nul_not_mem_value hv)]
    obtain ⟨b, more, hcons⟩ := List.exists_cons_of_ne_nil (value_ne_nil hv)
    rw [hcons]
    exact List.cons_ne_nil _ _

theorem loc_read_conf_r_name (conf_fp : Bytes) {read : List Bytes}
    (hread : linesRead [(nameEntry : LocParamS F)] 1 (pieces conf_fp) = read) :
    ∃ rest, pieces rest = (pieces conf_fp).drop read.length ∧
      loc_read_conf_r conf_fp [(nameEntry : LocParamS F)] =
        if read.any (overruns [(nameEntry : LocParamS F)]) then none
        else some (rest, [read.foldl LocCfg.setEntry nameEntry]) := by
  have hnodup : ([(nameEntry : LocParamS F)].map (·.param_name)).Nodup := List.nodup_singleton _
  obtain ⟨rest, hrest, hrun⟩ := readLoop_eq_pieces 1 (Nat.lt_succ_self conf_fp.length) hnodup
  rw [hread] at hrest hrun
  refine ⟨rest, hrest, ?_⟩
  rw [fillAll_eq] at hrun
  exact hrun

theorem countLoop_succ (fuel : Nat) (conf_fp : Bytes) {t others : Contents F}
    (hclear : clearName t = nameEntry :: others) (n : Nat) :
    countLoop (fuel + 1) conf_fp t n =
      match loc_read_conf_r conf_fp [(nameEntry : LocParamS F)] with
      | none => none
      | some (conf_fp, name) =>
        if stringAt (name ++ others) 0 = [] then some (n, name ++ others)
        else countLoop fuel conf_fp (name ++ others) ((n + 1) % 256) := by
  rw [countLoop, hclear]
  rfl

theorem countNames_cons (line : Bytes) (body : List Bytes) (blocks : List (List Bytes)) (n : Nat) :
    countNames F ((line :: body) :: blocks) n =
      if overruns [(nameEntry : LocParamS F)] line then none
      else if nameIsNull F line then some n
      else countNames F blocks ((n + 1) % 256) := rfl

theorem IsBlock.eq_cons {block : List Bytes} (h : IsBlock F block) :
    ∃ line body, block = line :: body ∧ fills [(nameEntry : LocParamS F)] line = true ∧
      ∀ l ∈ body, fills [(nameEntry : LocParamS F)] l = false := by
  obtain ⟨line, hhead, hline⟩ := h.head
  cases block with
  | nil => cases hhead
  | cons other body =>
    obtain rfl : other = line := Option.some.inj hhead
    refine ⟨other, body, rfl, hline, fun l hl => Bool.eq_false_iff.mpr fun hset => ?_⟩
    exact (List.pairwise_cons.mp h.distinct).1 l hl nameEntry (List.mem_cons_self ..)
      ⟨hline, hset⟩

theorem junk_fits {junk : List Bytes}
    (hjunk : ∀ line ∈ junk, fills [(nameEntry : LocParamS F)] line = false) :
    junk.any (overruns [(nameEntry : LocParamS F)]) = false :=
  List.any_eq_false.mpr fun line hline hover =>
    Bool.eq_false_iff.mp (hjunk line hline) (fills_of_overruns hover)

/-- Without a name the count ends. -/
theorem countLoop_end {junk : List Bytes}
    (hjunk : ∀ line ∈ junk, fills [(nameEntry : LocParamS F)] line = false) {conf_fp : Bytes}
    (hfile : pieces conf_fp = junk) {t others : Contents F}
    (hclear : clearName t = nameEntry :: others) (fuel n : Nat) :
    countLoop (fuel + 1) conf_fp t n = some (n, nameEntry :: others) := by
  have hread : linesRead [(nameEntry : LocParamS F)] 1 (pieces conf_fp) = junk := by
    rw [hfile]
    refine linesRead_of_few (Nat.lt_succ_of_le (List.countP_eq_zero.mpr ?_).le)
    exact fun line hline => Bool.eq_false_iff.mp (hjunk line hline)
  obtain ⟨rest, -, hrun⟩ := loc_read_conf_r_name conf_fp hread
  rw [junk_fits hjunk, foldl_unnamed fun line hline => Bool.eq_false_iff.mp (hjunk line hline)]
    at hrun
  rw [countLoop_succ fuel conf_fp hclear, hrun]
  rfl

/-- A file is longer than what is left of it behind a line that sets something. -/
theorem length_lt_of_pieces {conf_fp rest line : Bytes} {junk lines : List Bytes} {t : Contents F}
    (hfile : pieces conf_fp = junk ++ line :: lines) (hrest : pieces rest = lines)
    (hline : fills t line = true) : rest.length < conf_fp.length := by
  have hwhole := congrArg List.length (flatten_pieces conf_fp)
  have hrestLen := congrArg List.length (flatten_pieces rest)
  rw [hfile] at hwhole
  rw [hrest] at hrestLen
  have hne : line ≠ [] := by
    rintro rfl
    rw [fills_of_none (F := F) rfl] at hline
    cases hline
  have hpos := List.length_pos_iff.mpr hne
  simp only [List.flatten_append, List.flatten_cons, List.length_append] at hwhole
  omega

/-- **Counting the processes.** Between the names nothing is read, and the count goes up to
the first name that is NULL. -/
theorem countLoop_eq {blocks : List (List Bytes)} (hblocks : ∀ block ∈ blocks, IsBlock F block)
    {junk : List Bytes} (hjunk : ∀ line ∈ junk, fills [(nameEntry : LocParamS F)] line = false)
    {conf_fp : Bytes} (hfile : pieces conf_fp = junk ++ blocks.flatten) {fuel : Nat}
    (hfuel : conf_fp.length < fuel) {t : Contents F} (ht : IsContents t) (n : Nat) :
    (countLoop fuel conf_fp t n).map (·.1) = countNames F blocks n ∧
      ∀ s, countLoop fuel conf_fp t n = some s → IsContents s.2 := by
  obtain ⟨fuel, rfl⟩ : ∃ f, fuel = f + 1 := ⟨fuel - 1, by omega⟩
  obtain ⟨others, hclear, hothers⟩ := clearName_eq ht
  induction blocks generalizing junk conf_fp fuel t n others with
  | nil =>
    rw [List.flatten_nil, List.append_nil] at hfile
    rw [countLoop_end hjunk hfile hclear]
    refine ⟨rfl, fun s hs => ?_⟩
    rw [← Option.some.inj hs]
    exact hothers _ (isEntry_blankEntry _)
  | cons block blocks ih =>
    obtain ⟨line, body, rfl, hline, hbody⟩ := (hblocks block (List.mem_cons_self ..)).eq_cons
    rw [List.flatten_cons, List.cons_append] at hfile
    have hread : linesRead [(nameEntry : LocParamS F)] 1 (pieces conf_fp) = junk ++ [line] := by
      rw [hfile]
      exact linesRead_name rfl hjunk hline _
    obtain ⟨rest, hrest, hrun⟩ := loc_read_conf_r_name conf_fp hread
    rw [List.any_append, junk_fits hjunk, Bool.false_or, List.any_cons, List.any_nil,
      Bool.or_false, List.foldl_append,
      foldl_unnamed fun line hline => Bool.eq_false_iff.mp (hjunk line hline)] at hrun
    rw [countLoop_succ fuel conf_fp hclear, hrun, countNames_cons]
    by_cases hover : overruns [(nameEntry : LocParamS F)] line = true
    · rw [if_pos hover, if_pos hover]
      exact ⟨rfl, fun s hs => by cases hs⟩
    · rw [if_neg hover, if_neg hover]
      have hname := stringAt_setEntry hline others
      have hentry : IsContents (LocCfg.setEntry nameEntry line :: others) :=
        hothers _ ((isEntry_blankEntry _).setEntry line)
      show Option.map _ (if stringAt (LocCfg.setEntry nameEntry line :: others) 0 = [] then _
          else _) = _ ∧
        ∀ s, (if stringAt (LocCfg.setEntry nameEntry line :: others) 0 = [] then _ else _) =
          some s → _
      by_cases hnull : nameIsNull F line = true
      · rw [if_pos (hname.mpr hnull), if_pos hnull]
        refine ⟨rfl, fun s hs => ?_⟩
        rw [← Option.some.inj hs]
        exact hentry
      · rw [if_neg fun hh => hnull (hname.mp hh), if_neg hnull]
        obtain ⟨more, hmore, hmoreEntries⟩ := clearName_eq hentry
        have hpieces : pieces rest = body ++ blocks.flatten := by
          rw [hrest, hfile, List.length_append, List.length_singleton, ← List.drop_drop,
            List.drop_left]
          rfl
        have hshort := length_lt_of_pieces hfile hpieces hline
        obtain ⟨fuel, rfl⟩ : ∃ f, fuel = f + 1 := ⟨fuel - 1, by omega⟩
        exact ih (fun b hb => hblocks b (List.mem_cons_of_mem _ hb)) hbody hpieces hentry _ fuel
          (by omega) more hmore hmoreEntries

/-- The count of a whole file. -/
theorem countLoop_file {blocks : List (List Bytes)} (hblocks : ∀ block ∈ blocks, IsBlock F block)
    {file : Bytes} (hfile : pieces file = blocks.flatten) {t : Contents F} (ht : IsContents t) :
    (countLoop (file.length + 1) file t 0).map (·.1) = countNames F blocks 0 ∧
      ∀ s, countLoop (file.length + 1) file t 0 = some s → IsContents s.2 :=
  countLoop_eq hblocks (fun _ h => (by cases h))
    (hfile.trans (List.nil_append blocks.flatten).symm) (Nat.lt_succ_self file.length) ht 0

end Count

/-! ## The rounds -/

theorem IsEntry.cutList {e : ProcessParam} {p : LocParamS F} (h : IsEntry e p) :
    IsEntry e (cutList p) := by
  obtain ⟨hname, htype, hset, x, hx, hholds⟩ := h
  refine ⟨hname, htype, hset, ?_⟩
  unfold ProcessBlocks.cutList
  rw [hx]
  refine ⟨_, rfl, ?_⟩
  cases x with
  | string list => cases htype : e.param_type <;> rw [htype] at hholds <;> exact hholds
  | number v => exact hholds
  | double x => exact hholds

theorem IsContents.cutLists {t : Contents F} (h : IsContents t) : IsContents (cutLists t) := by
  unfold ProcessBlocks.cutLists
  split
  · refine List.forall₂_iff_get.mpr ⟨by rw [List.length_mapIdx, h.length_eq], fun k hk hk' => ?_⟩
    rw [List.length_mapIdx] at hk'
    have hold := List.Forall₂.get h hk hk'
    simp only [List.get_eq_getElem, List.getElem_mapIdx] at hold ⊢
    split
    · exact hold.cutList
    · exact hold
  · exact h

section Rounds
variable [FloatText F]

theorem processBlock_isContents {env : Settings} {s s' : Round F} (h : IsContents s.contents)
    (hstep : processBlock env s = some s') : IsContents s'.contents := by
  unfold processBlock at hstep
  obtain ⟨rest, -, hrun⟩ := readLoop_eq_pieces s.contents.length
    (Nat.lt_succ_self s.conf_fp.length) h.nodup
  rw [loc_read_conf_r, readFrom, map_clear_eq h, hrun] at hstep
  split at hstep
  · cases hstep
  · rename_i heq
    split at heq
    · cases heq
    · obtain ⟨-, rfl⟩ := Prod.mk.inj (Option.some.inj heq)
      rw [← Option.some.inj hstep]
      exact (h.fillAll _).cutLists

theorem atRound_isContents {env : Settings} {file : Bytes} {t : Contents F} (ht : IsContents t)
    {j : Nat} {s : Round F} (hs : atRound env file t j = some s) : IsContents s.contents := by
  induction j generalizing s with
  | zero =>
    rw [← Option.some.inj hs]
    exact ht
  | succ j ih =>
    obtain ⟨before, hbefore, hstep⟩ := Option.bind_eq_some_iff.mp hs
    exact processBlock_isContents (ih hbefore) hstep

theorem pieces_inj {file file' : Bytes} (h : pieces file = pieces file') : file = file' := by
  rw [← flatten_pieces file, h, flatten_pieces]

/-- The entry that the lines of a block give by themselves. -/
def alone (F : Type) [FloatText F] (env : Settings) (block : List Bytes) : ProcessInfo :=
  childProc env (confOf (fillAll block (blank : Contents F)))

/-- As many processes are reported as there are blocks, and each entry is the one that its
block gives by itself. Round `j` starts at its own block, and what it reads does not depend
on what the structure holds when it starts. -/
structure Independent (F : Type) [FloatText F] (env : Settings) (file : Bytes)
    (blocks : List (List Bytes)) : Prop where
  table : ∀ t : Contents F, IsContents t → loc_read_process_conf env (some file) t =
    some ⟨0, blocks.length, some (blocks.map (alone F env))⟩
  round : ∀ t : Contents F, IsContents t → ∀ j < blocks.length,
    ∃ s, atRound env file t j = some s ∧ pieces s.conf_fp = (blocks.drop j).flatten ∧
      ∀ t', IsContents t' → loc_read_conf_r s.conf_fp t' = loc_read_conf_r s.conf_fp s.contents

/-- There are fewer than 256 blocks, each sets every parameter, every string fits its field
and no name is NULL. -/
structure Complete (F : Type) [FloatText F] (blocks : List (List Bytes)) : Prop where
  few : blocks.length < 256
  full : ∀ block ∈ blocks, block.length = numParams
  fits : ∀ block ∈ blocks, ∀ line ∈ block, overruns (blank : Contents F) line = false
  named : ∀ block ∈ blocks, ∀ line ∈ block.head?, nameIsNull F line = false

theorem countNames_of_named {blocks : List (List Bytes)}
    (hblocks : ∀ block ∈ blocks, IsBlock F block)
    (hnamed : ∀ block ∈ blocks, ∀ line ∈ block.head?,
      overruns [(nameEntry : LocParamS F)] line = false ∧ nameIsNull F line = false)
    {n : Nat} (hn : n < 256) : countNames F blocks n = some ((n + blocks.length) % 256) := by
  induction blocks generalizing n with
  | nil => rw [countNames, List.length_nil, Nat.add_zero, Nat.mod_eq_of_lt hn]
  | cons block blocks ih =>
    obtain ⟨line, body, rfl, -⟩ := (hblocks block (List.mem_cons_self ..)).eq_cons
    obtain ⟨hfits, hname⟩ := hnamed _ (List.mem_cons_self ..) line rfl
    rw [countNames_cons, if_neg (Bool.eq_false_iff.mp hfits),
      if_neg (Bool.eq_false_iff.mp hname),
      ih (fun b hb => hblocks b (List.mem_cons_of_mem _ hb))
        (fun b hb => hnamed b (List.mem_cons_of_mem _ hb)) (Nat.mod_lt _ (by decide))]
    rw [List.length_cons, Nat.mod_add_mod, Nat.add_right_comm, Nat.add_assoc]

/-- If the blocks are counted right, no name is NULL. -/
theorem named_of_countNames {blocks : List (List Bytes)} {n m : Nat} (hn : n < 256)
    (h : countNames F blocks n = some m) :
    m < 256 ∧ ∃ k ≤ blocks.length, m = (n + k) % 256 ∧
      (k = blocks.length → ∀ block ∈ blocks, ∀ line ∈ block.head?, nameIsNull F line = false) := by
  induction blocks generalizing n with
  | nil =>
    rw [← Option.some.inj h]
    exact ⟨hn, 0, Nat.le_refl _, (Nat.mod_eq_of_lt hn).symm, fun _ b hb => by cases hb⟩
  | cons block blocks ih =>
    -- the loop ends here
    have hends : countNames F (block :: blocks) n = some n →
        m < 256 ∧ ∃ k ≤ (block :: blocks).length, m = (n + k) % 256 ∧
          (k = (block :: blocks).length → ∀ b ∈ block :: blocks, ∀ line ∈ b.head?,
            nameIsNull F line = false) := by
      intro hn'
      rw [← Option.some.inj (hn'.symm.trans h)]
      exact ⟨hn, 0, Nat.zero_le _, (Nat.mod_eq_of_lt hn).symm, fun hk => by cases hk⟩
    cases block with
    | nil => exact hends rfl
    | cons line body =>
      rw [countNames_cons] at h hends
      by_cases hover : overruns [(nameEntry : LocParamS F)] line = true
      · rw [if_pos hover] at h
        cases h
      · by_cases hnull : nameIsNull F line = true
        · rw [if_neg hover, if_pos hnull] at hends
          exact hends rfl
        · rw [if_neg hover, if_neg hnull] at h
          obtain ⟨hm, k, hk, hmk, hnamed⟩ := ih (Nat.mod_lt _ (by decide)) h
          refine ⟨hm, k + 1, Nat.succ_le_succ hk, ?_, fun hlen b hb l hl => ?_⟩
          · rw [hmk, Nat.mod_add_mod, Nat.add_assoc, Nat.add_comm 1 k]
          · rcases List.mem_cons.mp hb with rfl | hb
            · rw [← Option.some.inj hl]
              exact Bool.eq_false_iff.mpr hnull
            · exact hnamed (Nat.succ.inj hlen) b hb l hl

/-! ## Complete blocks -/

theorem overruns_of_mem {t : Contents F} {p : LocParamS F} (hp : p ∈ t) {line : Bytes}
    (h : overruns [p] line = true) : overruns t line = true := by
  unfold overruns at h ⊢
  cases hv : (configValue line : Option (LocParamV F)) with
  | none => rw [hv] at h; cases h
  | some v =>
    rw [hv] at h
    simp only [Bool.and_eq_true, List.any_cons, List.any_nil, Bool.or_false] at h ⊢
    exact ⟨h.1, List.any_eq_true.mpr ⟨p, hp, by simpa using h.2⟩⟩

theorem IsBlock.length_le {block : List Bytes} (h : IsBlock F block) :
    block.length ≤ numParams := by
  obtain ⟨-, hiff⟩ := recordsSet_eq_length_iff isContents_blank.nodup h.lines
  rw [← hiff.mpr h.distinct]
  exact List.countP_le_length.trans isContents_blank.length_eq.le

theorem IsBlock.setsAll {block : List Bytes} (h : IsBlock F block)
    (hfull : block.length = numParams) : SetsAll F block :=
  (setsAll_iff h.lines hfull.le).mpr ⟨hfull, h.distinct⟩

/-- The reader takes a complete block and leaves nothing of what the structure held. -/
theorem loc_read_conf_r_complete {block later : List Bytes} (hblock : IsBlock F block)
    (hfull : block.length = numParams)
    (hfits : ∀ line ∈ block, overruns (blank : Contents F) line = false) {conf_fp : Bytes}
    (hfile : pieces conf_fp = block ++ later) {t : Contents F} (ht : IsContents t) :
    ∃ rest, pieces rest = later ∧
      loc_read_conf_r conf_fp t = some (rest, fillAll block (blank : Contents F)) := by
  have htake : (pieces conf_fp).take numParams = block := by
    rw [hfile, ← hfull, List.take_left]
  obtain ⟨rest, hrest, hrun⟩ := loc_read_conf_r_eq_pieces ht conf_fp (htake ▸ hblock.lines)
  have hnone : block.any (overruns (blank : Contents F)) = false :=
    List.any_eq_false.mpr fun line hline => Bool.eq_false_iff.mp (hfits line hline)
  refine ⟨rest, ?_, ?_⟩
  · rw [hrest, hfile, ← hfull, List.drop_left]
  · rw [hrun, htake, hnone, fillAll_eq_of_setsAll (hblock.setsAll hfull) ht isContents_blank]
    rfl

/-- Where round `j` over complete blocks starts. -/
theorem atRound_complete (env : Settings) {blocks : List (List Bytes)}
    (hblocks : ∀ block ∈ blocks, IsBlock F block) (hcomplete : Complete F blocks) {file : Bytes}
    (hfile : pieces file = blocks.flatten) {t : Contents F} (ht : IsContents t) {j : Nat}
    (hj : j ≤ blocks.length) :
    ∃ s, atRound env file t j = some s ∧ pieces s.conf_fp = (blocks.drop j).flatten ∧
      IsContents s.contents ∧ s.child_proc = (blocks.take j).map (alone F env) := by
  refine countUp_spec (fun j (s : Round F) => pieces s.conf_fp = (blocks.drop j).flatten ∧
    IsContents s.contents ∧ s.child_proc = (blocks.take j).map (alone F env))
    ⟨hfile, ht, rfl⟩ ?_
  intro k hk s hs
  obtain ⟨hpieces, hcontents, hchild⟩ := hs
  have hlt : k < blocks.length := Nat.lt_of_lt_of_le hk hj
  have hmem : blocks[k] ∈ blocks := List.getElem_mem hlt
  rw [List.drop_eq_getElem_cons hlt, List.flatten_cons] at hpieces
  obtain ⟨rest, hrest, hread⟩ := loc_read_conf_r_complete (hblocks _ hmem)
    (hcomplete.full _ hmem) (hcomplete.fits _ hmem) hpieces hcontents
  refine ⟨⟨rest, cutLists (fillAll blocks[k] blank), s.child_proc ++ [alone F env blocks[k]]⟩,
    ?_, hrest, (isContents_blank.fillAll _).cutLists, ?_⟩
  · unfold processBlock
    rw [hread]
    rfl
  · rw [hchild, List.take_succ_eq_append_getElem hlt, List.map_append]
    rfl

theorem independent_of_complete (env : Settings) {file : Bytes} {blocks : List (List Bytes)}
    (hfile : pieces file = blocks.flatten) (hblocks : ∀ block ∈ blocks, IsBlock F block)
    (hcomplete : Complete F blocks) : Independent F env file blocks := by
  constructor
  · intro t ht
    have hcount := countNames_of_named hblocks (fun block hblock line hline =>
      ⟨Bool.eq_false_iff.mpr fun hover => Bool.eq_false_iff.mp
        (hcomplete.fits block hblock line (List.mem_of_mem_head? hline))
        (overruns_of_mem nameEntry_mem_blank hover), hcomplete.named block hblock line hline⟩)
      (show 0 < 256 by decide)
    rw [Nat.zero_add, Nat.mod_eq_of_lt hcomplete.few] at hcount
    obtain ⟨hloop, hafter⟩ := countLoop_file hblocks hfile ht
    rw [hcount] at hloop
    obtain ⟨⟨n, t'⟩, hrun, rfl⟩ := Option.map_eq_some_iff.mp hloop
    obtain ⟨s, hs, -, -, hchild⟩ := atRound_complete env hblocks hcomplete hfile
      (hafter _ hrun) (Nat.le_refl _)
    rw [List.take_length] at hchild
    rw [loc_read_process_conf, hrun]
    show Option.map _ (atRound env file t' blocks.length) = _
    rw [hs, Option.map_some, hchild]
  · intro t ht j hj
    obtain ⟨s, hs, hpieces, hcontents, -⟩ := atRound_complete env hblocks hcomplete hfile ht
      hj.le
    refine ⟨s, hs, hpieces, fun t' ht' => ?_⟩
    have hmem : blocks[j] ∈ blocks := List.getElem_mem hj
    rw [List.drop_eq_getElem_cons hj, List.flatten_cons] at hpieces
    have hread := fun {t : Contents F} => loc_read_conf_r_complete (t := t) (hblocks _ hmem)
      (hcomplete.full _ hmem) (hcomplete.fits _ hmem) hpieces
    obtain ⟨rest, hrest, hrun⟩ := hread hcontents
    obtain ⟨rest', hrest', hrun'⟩ := hread ht'
    rw [hrun, hrun', pieces_inj (hrest'.trans hrest.symm)]

/-- What a round reads from the beginning of a block on are lines of blocks. -/
theorem fills_of_mem_take {block : List Bytes} {more : List (List Bytes)} (hblock : IsBlock F block)
    (hmore : ∀ b ∈ more, IsBlock F b) (n : Nat) :
    ∀ line ∈ (block ++ more.flatten).take n, fills (blank : Contents F) line = true := by
  intro line hline
  rcases List.mem_append.mp (List.mem_of_mem_take hline) with hline | hline
  · exact hblock.lines line hline
  · obtain ⟨b, hb, hline⟩ := List.mem_flatten.mp hline
    exact (hmore b hb).lines line hline

/-- A round that sets everything has read its own block: otherwise it has read two names. -/
theorem full_of_setsAll {block : List Bytes} {more : List (List Bytes)} (hblock : IsBlock F block)
    (hmore : ∀ b ∈ more, IsBlock F b)
    (hset : SetsAll F ((block ++ more.flatten).take numParams)) : block.length = numParams := by
  obtain ⟨hlen, hdistinct⟩ := (setsAll_iff (fills_of_mem_take hblock hmore numParams)
    (List.length_take_le _ _)).mp hset
  by_contra hne
  have hshort : block.length < numParams := Nat.lt_of_le_of_ne hblock.length_le hne
  rw [List.take_append, List.take_of_length_le hshort.le] at hlen hdistinct
  cases more with
  | nil =>
    rw [List.flatten_nil, List.take_nil, List.append_nil] at hlen
    exact hne hlen
  | cons next more =>
    obtain ⟨line, body, rfl, hname, -⟩ := hblock.eq_cons
    obtain ⟨line', body', rfl, hname', -⟩ := (hmore next (List.mem_cons_self ..)).eq_cons
    obtain ⟨k, hk⟩ : ∃ k, numParams - (line :: body).length = k + 1 :=
      ⟨_, (Nat.succ_pred (by omega)).symm⟩
    rw [hk, List.flatten_cons, List.cons_append, List.cons_append, List.take_succ_cons] at hdistinct
    exact (List.pairwise_cons.mp hdistinct).1 line' (List.mem_append_right _ (List.mem_cons_self ..))
      nameEntry nameEntry_mem_blank ⟨hname, hname'⟩

/-- A round that depends on nothing but its own block has read all of it, and no more. -/
theorem round_reads_block {env : Settings} {file : Bytes} {blocks : List (List Bytes)}
    (hblocks : ∀ block ∈ blocks, IsBlock F block) {j : Nat} (hj : j < blocks.length)
    {block : List Bytes} (hblock : blocks[j]? = some block) {t : Contents F} (ht : IsContents t)
    {last : Round F} (hlast : atRound env file t blocks.length = some last)
    {s : Round F} (hs : atRound env file t j = some s)
    (hpieces : pieces s.conf_fp = (blocks.drop j).flatten)
    (hsame : ∀ t', IsContents t' →
      loc_read_conf_r s.conf_fp t' = loc_read_conf_r s.conf_fp s.contents) :
    block.length = numParams ∧ ∀ line ∈ block, overruns (blank : Contents F) line = false := by
  have hcontents := atRound_isContents ht hs
  obtain ⟨_, hget⟩ := List.getElem?_eq_some_iff.mp hblock
  rw [List.drop_eq_getElem_cons hj, hget, List.flatten_cons] at hpieces
  have hmore : ∀ b ∈ blocks.drop (j + 1), IsBlock F b := fun b hb =>
    hblocks b (List.mem_of_mem_drop hb)
  have hown : IsBlock F block := hblocks block (List.mem_of_getElem? hblock)
  have hlines := fills_of_mem_take hown hmore numParams
  rw [← hpieces] at hlines
  -- the round has come to its end
  obtain ⟨s', hs'⟩ := countUp_of_le hlast (Nat.succ_le_of_lt hj)
  obtain ⟨_, hs'', hstep⟩ := Option.bind_eq_some_iff.mp hs'
  obtain rfl := Option.some.inj (hs.symm.trans hs'')
  have hfits : ((pieces s.conf_fp).take numParams).any (overruns (blank : Contents F)) =
      false := by
    obtain ⟨rest, -, hread⟩ := loc_read_conf_r_eq_pieces hcontents s.conf_fp hlines
    by_contra hover
    have hstep : processBlock env s = some s' := hstep
    unfold processBlock at hstep
    rw [hread, if_pos (Bool.eq_true_of_not_eq_false hover)] at hstep
    cases hstep
  have hall : SetsAll F ((pieces s.conf_fp).take numParams) := by
    refine setsAll_of_fillAll_eq hcontents fun t' ht' => ?_
    obtain ⟨rest, -, hread⟩ := loc_read_conf_r_eq_pieces hcontents s.conf_fp hlines
    obtain ⟨rest', -, hread'⟩ := loc_read_conf_r_eq_pieces ht' s.conf_fp hlines
    have heq := hsame t' ht'
    rw [hread, hread', hfits] at heq
    exact congrArg Prod.snd (Option.some.inj heq)
  rw [hpieces] at hall hfits
  have hfull := full_of_setsAll hown hmore hall
  rw [← hfull, List.take_left] at hfits
  exact ⟨hfull, fun line hline =>
    Bool.eq_false_iff.mpr (List.any_eq_false.mp hfits line hline)⟩

theorem complete_of_independent {env : Settings} {file : Bytes} {blocks : List (List Bytes)}
    (hfile : pieces file = blocks.flatten) (hblocks : ∀ block ∈ blocks, IsBlock F block)
    (h : Independent F env file blocks) : Complete F blocks := by
  obtain ⟨hloop, hafter⟩ := countLoop_file hblocks hfile (isContents_blank (F := F))
  have htable := h.table blank isContents_blank
  rw [loc_read_process_conf] at htable
  cases hrun : countLoop (file.length + 1) file (blank : Contents F) 0 with
  | none =>
    rw [hrun] at htable
    cases htable
  | some counted =>
    obtain ⟨n, t⟩ := counted
    rw [hrun] at htable hloop
    obtain ⟨last, hlast, htable⟩ := Option.map_eq_some_iff.mp htable
    obtain rfl : n = blocks.length := congrArg ProcessTable.process_count htable
    have ht : IsContents t := hafter _ hrun
    have hcount : countNames F blocks 0 = some blocks.length := hloop.symm
    obtain ⟨hfew, k, hk, hmod, hnamed⟩ := named_of_countNames (by decide) hcount
    have hread : ∀ block ∈ blocks,
        block.length = numParams ∧ ∀ line ∈ block, overruns (blank : Contents F) line = false := by
      intro block hblock
      obtain ⟨j, hj⟩ := List.mem_iff_getElem?.mp hblock
      obtain ⟨hlt, -⟩ := List.getElem?_eq_some_iff.mp hj
      obtain ⟨s, hs, hpieces, hsame⟩ := h.round t ht j hlt
      exact round_reads_block hblocks hlt hj ht hlast hs hpieces hsame
    have hk' : k = blocks.length := by omega
    exact ⟨hfew, fun block hblock => (hread block hblock).1, fun block hblock =>
      (hread block hblock).2, hnamed hk'⟩

/-! ## Independent blocks -/

instance (block : List Bytes) : Decidable (IsBlock F block) :=
  decidable_of_iff ((∃ line ∈ block.head?, fills [(nameEntry : LocParamS F)] line = true) ∧
      (∀ line ∈ block, fills (blank : Contents F) line = true) ∧
      block.Pairwise fun l l' =>
        ∀ p ∈ (blank : Contents F), ¬ (fills [p] l = true ∧ fills [p] l' = true))
    ⟨fun ⟨head, lines, distinct⟩ => ⟨head, lines, distinct⟩,
      fun ⟨head, lines, distinct⟩ => ⟨head, lines, distinct⟩⟩

/-- A device without features and groups. -/
def plainDevice : Settings where
  features := ⟨[], [], [], [], [], [], [], [], []⟩
  platform_name := bytesOf "msm8996".toList
  baseband_name := bytesOf "msm".toList
  autoplatform_name := bytesOf "mtp".toList
  sglte_target := 0
  getpwnam := fun _ => none

/-- The parameters that every process has to give. -/
def shortBlock (name : Char) : List Bytes :=
  ["PROCESS_NAME=".toList ++ [name], "PROCESS_STATE=ENABLED".toList, "PROCESS_GROUPS=gps".toList,
    "PLATFORMS=all".toList, "BASEBAND=all".toList, "HARDWARE_TYPE=all".toList].map
      fun line => bytesOf line ++ [10]

/-- All the parameters. -/
def fullBlock (name : Char) : List Bytes :=
  shortBlock name ++ ["PROCESS_ARGUMENT=-v".toList, "PREMIUM_FEATURE=0".toList,
    "IZAT_FEATURE_MASK=0".toList].map fun line => bytesOf line ++ [10]

/-- **Process blocks.** The blocks of a file are independent of each other exactly if they are
complete. -/
theorem independent_iff (env : Settings) {file : Bytes} {blocks : List (List Bytes)}
    (hfile : pieces file = blocks.flatten) (hblocks : ∀ block ∈ blocks, IsBlock F block) :
    Independent F env file blocks ↔ Complete F blocks :=
  ⟨complete_of_independent hfile hblocks, independent_of_complete env hfile hblocks⟩

theorem independent_iff_two_full :
    Independent Int plainDevice (fullBlock 'a' ++ fullBlock 'b').flatten
        [fullBlock 'a', fullBlock 'b'] ↔
      Complete Int [fullBlock 'a', fullBlock 'b'] :=
  independent_iff plainDevice (by decide +kernel) (by decide +kernel)

/-- Two processes without arguments and features: the first entry is made of six lines of its
own block and three of the second one, and has the name of the second one. -/
theorem first_entry_has_second_name :
    let blocks := [shortBlock 'a', shortBlock 'b']
    (∀ block ∈ blocks, IsBlock Int block) ∧ pieces blocks.flatten.flatten = blocks.flatten ∧
      (alone Int plainDevice (shortBlock 'a')).name = bytesOf ['a'] ∧
      (loc_read_process_conf plainDevice (some blocks.flatten.flatten)
          (blank : Contents Int)).map (fun table =>
            (table.process_count, table.process_info_table.map (·.map (·.name)))) =
        some (2, some [bytesOf ['b'], bytesOf ['b']]) ∧
      ¬ Independent Int plainDevice blocks.flatten.flatten blocks := by
  intro blocks
  have halone : (alone Int plainDevice (shortBlock 'a')).name = bytesOf ['a'] := by
    decide +kernel
  have hnames : (loc_read_process_conf plainDevice (some blocks.flatten.flatten)
      (blank : Contents Int)).map (fun table =>
        (table.process_count, table.process_info_table.map (·.map (·.name)))) =
      some (2, some [bytesOf ['b'], bytesOf ['b']]) := by
    decide +kernel
  refine ⟨by decide +kernel, by decide +kernel, halone, hnames, fun h => ?_⟩
  rw [h.table blank isContents_blank] at hnames
  obtain ⟨-, hnames⟩ := Prod.mk.inj (Option.some.inj hnames)
  have hfirst := congrArg (·.bind (·.head?)) hnames
  exact absurd (halone.symm.trans (Option.some.inj hfirst)) (by decide)

end Rounds

end DeviceHal.Utils.ProcessBlocks
