import DeviceHal.Lib.CText
import DeviceHal.Lib.Lines
import Mathlib.Data.List.DropRight
import Mathlib.Tactic

/-! # Configuration files

`loc_cfg.cpp`: `loc_read_conf_r` reads lines `name=value` into a table of
parameters until it has filled as many as the table has, or the file ends. A key
that is repeated counts each time. -/
namespace DeviceHal.Utils.LocCfg
open DeviceHal.Lib.CText DeviceHal.Lib.Lines

variable {F : Type}

/-! ## Tables -/

def LOC_MAX_PARAM_NAME : Nat := 80
def LOC_MAX_PARAM_STRING : Nat := 80
def LOC_MAX_PARAM_LINE : Nat := LOC_MAX_PARAM_NAME + LOC_MAX_PARAM_STRING

/-- What a parameter's variable holds. -/
inductive Variable (F : Type) where
  | string (text : Bytes)
  | number (v : Int)
  | double (x : F)
deriving DecidableEq

/-- An entry with the variables behind its pointers, which no two entries share. -/
structure LocParamS (F : Type) where
  param_name : Bytes
  param_ptr : Option (Variable F)
  param_set : Option UInt8
  param_type : UInt8
deriving DecidableEq

structure LocParamV (F : Type) where
  param_name : Bytes
  param_str_value : Bytes
  param_int_value : Int
  param_double_value : F
deriving DecidableEq

/-- What the `switch` on the type stores; `none` for a type other than s, n and f. -/
def LocParamV.converted (v : LocParamV F) (param_type : UInt8) : Option (Variable F) :=
  if param_type = 115 then
    if v.param_str_value = bytesOf ['N', 'U', 'L', 'L'] then some (.string [])
    else some (.string (strlcpy v.param_str_value (LOC_MAX_PARAM_STRING + 1)))
  else if param_type = 110 then some (.number v.param_int_value)
  else if param_type = 102 then some (.double v.param_double_value)
  else none

/-- The return value and the entry. -/
def loc_set_config_entry (config_entry : LocParamS F) (config_value : LocParamV F) :
    Int × LocParamS F :=
  if config_entry.param_name = config_value.param_name ∧ config_entry.param_ptr.isSome then
    match config_value.converted config_entry.param_type with
    | some x =>
      (0, { config_entry with
        param_ptr := some x
        param_set := config_entry.param_set.map fun _ => 1 })
    | none => (-1, config_entry)
  else (-1, config_entry)

/-! ## Lines -/

/-- The next token and what follows the delimiter behind it. -/
def strtok_r (delim : UInt8) (text : Bytes) : Option (Bytes × Bytes) :=
  let text := text.dropWhile (· = delim)
  if text = [] then none
  else some (text.takeWhile (· ≠ delim), (text.dropWhile (· ≠ delim)).tail)

/-- The token is the text between the first delimiters and the next one. -/
theorem strtok_r_eq_some_iff {delim : UInt8} {text token rest : Bytes} :
    strtok_r delim text = some (token, rest) ↔
      token ≠ [] ∧ delim ∉ token ∧ ∃ k behind,
        text = List.replicate k delim ++ (token ++ behind) ∧
          (∀ b ∈ behind.head?, b = delim) ∧ rest = behind.tail := by
  constructor
  · intro h
    simp only [strtok_r] at h
    split at h
    · cases h
    · rename_i hne
      cases h
      have hskip : text.takeWhile (· = delim) = List.replicate (text.takeWhile (· = delim)).length
          delim := List.eq_replicate_iff.mpr
        ⟨rfl, fun b hb => by simpa using List.mem_takeWhile_imp hb⟩
      refine ⟨fun hnil => ?_, fun hmem => ?_, (text.takeWhile (· = delim)).length, _, ?_,
        fun b hb => ?_, rfl⟩
      · have hhead := List.head?_dropWhile_not (fun x => decide (x = delim)) text
        cases hrest : text.dropWhile (· = delim) with
        | nil => exact hne hrest
        | cons b rest =>
          rw [hrest] at hhead hnil
          have hb : b ≠ delim := by simpa using hhead
          simp [hb] at hnil
      · simpa using List.mem_takeWhile_imp hmem
      · rw [List.takeWhile_append_dropWhile, ← hskip, List.takeWhile_append_dropWhile]
      · have hnot := List.head?_dropWhile_not (fun x => decide (x ≠ delim))
          (text.dropWhile (· = delim))
        rw [Option.mem_def.mp hb] at hnot
        simpa using hnot
  · rintro ⟨hne, hno, k, behind, rfl, hbehind, rfl⟩
    obtain ⟨b, token, rfl⟩ := List.exists_cons_of_ne_nil hne
    have hb : b ≠ delim := fun h => hno (h ▸ List.mem_cons_self)
    have hskip : (List.replicate k delim ++ (b :: token ++ behind)).dropWhile (· = delim) =
        b :: token ++ behind := by
      rw [List.dropWhile_append_of_pos fun c hc => decide_eq_true (List.eq_of_mem_replicate hc),
        List.cons_append, List.dropWhile_cons_of_neg (by simpa using hb)]
    have htake : behind.takeWhile (· ≠ delim) = [] := by
      cases behind with
      | nil => rfl
      | cons c behind => simp [hbehind c rfl]
    have hdrop : behind.dropWhile (· ≠ delim) = behind := by
      cases behind with
      | nil => rfl
      | cons c behind => simp [hbehind c rfl]
    simp only [strtok_r, hskip]
    rw [if_neg (List.append_ne_nil_of_left_ne_nil hne _), takeWhile_ne_append hno,
      dropWhile_ne_append hno, htake, hdrop, List.append_nil]

theorem strtok_r_eq_none_iff {delim : UInt8} {text : Bytes} :
    strtok_r delim text = none ↔ ∀ b ∈ text, b = delim := by
  simp only [strtok_r]
  split
  · rename_i hnil
    exact iff_of_true rfl fun b hb =>
      of_decide_eq_true (List.dropWhile_eq_nil_iff.mp hnil b hb)
  · rename_i hne
    refine iff_of_false (Option.some_ne_none _) fun hall => hne ?_
    exact List.dropWhile_eq_nil_iff.mpr fun b hb => decide_eq_true (hall b hb)

/-- What `write_ptr` has written, and how much of it ends with a character that is no
space. -/
structure TrimState where
  written : Bytes
  last_nonspace : Option Nat

def trimStep (s : TrimState) (b : UInt8) : TrimState :=
  if !isSpace b || s.written ≠ [] then
    { written := s.written ++ [b]
      last_nonspace := if !isSpace b then some (s.written.length + 1) else s.last_nonspace }
  else s

/-- A string of spaces is left as it is. -/
def loc_util_trim_space (org_string : Bytes) : Bytes :=
  let s := org_string.foldl trimStep ⟨[], none⟩
  match s.last_nonspace with
  | some n => s.written.take n
  | none => org_string

theorem foldl_trimStep (text : Bytes) :
    text.foldl trimStep ⟨[], none⟩ =
      ⟨text.dropWhile isSpace,
        if text.all isSpace then none
        else some ((text.dropWhile isSpace).rdropWhile isSpace).length⟩ := by
  induction text using List.reverseRecOn with
  | nil => rfl
  | append_singleton text b ih =>
    rw [List.foldl_append, ih]
    show trimStep _ b = _
    by_cases hall : text.all isSpace = true
    · have hnil : text.dropWhile isSpace = [] :=
        List.dropWhile_eq_nil_iff.mpr (List.all_eq_true.mp hall)
      cases hb : isSpace b <;>
        simp [trimStep, hall, hnil, hb, List.dropWhile_append, List.rdropWhile_singleton]
    · have hcons : text.dropWhile isSpace ≠ [] := by
        simpa [List.dropWhile_eq_nil_iff] using hall
      cases hb : isSpace b <;>
        simp [trimStep, hall, hcons, hb, List.dropWhile_append]

/-- A text that has other characters loses the spaces around them. -/
theorem loc_util_trim_space_eq {text : Bytes} (hall : text.all isSpace = false) :
    loc_util_trim_space text = (text.dropWhile isSpace).rdropWhile isSpace := by
  rw [loc_util_trim_space, foldl_trimStep, hall]
  exact (List.prefix_iff_eq_take.mp (List.rdropWhile_prefix isSpace _)).symm

theorem loc_util_trim_space_of_all {text : Bytes} (hall : text.all isSpace = true) :
    loc_util_trim_space text = text := by
  rw [loc_util_trim_space, foldl_trimStep, hall]
  rfl

/-- The text without the white space around it; one of white space only stays. -/
inductive Trims : Bytes → Bytes → Prop where
  | blank {text : Bytes} (h : text.all isSpace = true) : Trims text text
  | inner {before text behind : Bytes} (hbefore : before.all isSpace = true)
    (hbehind : behind.all isSpace = true) (hfirst : ∃ b ∈ text.head?, isSpace b = false)
    (hlast : ∃ b ∈ text.getLast?, isSpace b = false) : Trims (before ++ text ++ behind) text

theorem trim_space_eq_iff {text trimmed : Bytes} :
    Trims text trimmed ↔ loc_util_trim_space text = trimmed := by
  constructor
  · intro h
    cases h with
    | blank h => exact loc_util_trim_space_of_all h
    | @inner before _ behind hbefore hbehind hfirst hlast =>
      obtain ⟨b, hb, hbspace⟩ := hfirst
      obtain ⟨c, hc, hcspace⟩ := hlast
      have hmem : b ∈ before ++ trimmed ++ behind := by
        simp [List.mem_of_mem_head? hb]
      have hsome : (before ++ trimmed ++ behind).all isSpace = false :=
        List.all_eq_false.mpr ⟨b, hmem, by simp [hbspace]⟩
      obtain ⟨rest, rfl⟩ := List.head?_eq_some_iff.mp hb
      obtain ⟨init, hinit⟩ := List.getLast?_eq_some_iff.mp hc
      rw [loc_util_trim_space_eq hsome, List.append_assoc, List.dropWhile_append_of_pos
        (List.all_eq_true.mp hbefore), List.cons_append, List.dropWhile_cons_of_neg (by
        simp [hbspace]), ← List.cons_append, hinit, List.rdropWhile, List.reverse_append,
        List.dropWhile_append_of_pos fun x hx => List.all_eq_true.mp hbehind x
        (List.mem_reverse.mp hx)]
      simp [hcspace]
  · rintro rfl
    cases hall : text.all isSpace with
    | true =>
      rw [loc_util_trim_space_of_all hall]
      exact .blank hall
    | false =>
      rw [loc_util_trim_space_eq hall]
      have hne : text.dropWhile isSpace ≠ [] := by
        simpa [List.dropWhile_eq_nil_iff] using hall
      have hhead : ∀ b ∈ (text.dropWhile isSpace).head?, isSpace b = false := by
        intro b hb
        have hnot := List.head?_dropWhile_not isSpace text
        rw [Option.mem_def.mp hb] at hnot
        simpa using hnot
      have hbefore : (text.takeWhile isSpace).all isSpace = true :=
        List.all_eq_true.mpr fun b hb => List.mem_takeWhile_imp hb
      have hsplit : text.takeWhile isSpace ++ text.dropWhile isSpace = text :=
        List.takeWhile_append_dropWhile
      generalize text.takeWhile isSpace = before at hbefore hsplit
      generalize text.dropWhile isSpace = rest at hne hhead hsplit
      obtain ⟨b, rest, rfl⟩ := List.exists_cons_of_ne_nil hne
      have hb : isSpace b = false := hhead b rfl
      have hcore : (b :: rest).rdropWhile isSpace ≠ [] := fun hnil => by
        have hspace := List.rdropWhile_eq_nil_iff.mp hnil b List.mem_cons_self
        rw [hb] at hspace
        cases hspace
      have hfirst : ((b :: rest).rdropWhile isSpace).head? = some b := by
        obtain ⟨tail, htail⟩ := List.rdropWhile_prefix isSpace (b :: rest)
        rw [← List.head?_append_of_ne_nil _ hcore, htail, List.head?_cons]
      have hlast := List.rdropWhile_last_not isSpace (b :: rest) hcore
      have hbehind : ((b :: rest).rtakeWhile isSpace).all isSpace = true :=
        List.all_eq_true.mpr fun _ hx => List.mem_rtakeWhile_imp hx
      have htrims := Trims.inner hbefore hbehind ⟨b, hfirst, hb⟩
        ⟨_, List.getLast?_eq_some_getLast hcore, by simpa using hlast⟩
      rwa [List.append_assoc, List.rdropWhile_append_rtakeWhile, hsplit] at htrims

section Read
variable [FloatText F]

/-- The operands of a line, the value as a text and as the numbers it may be. -/
def LocParamV.parsed (param_name value : Bytes) : LocParamV F :=
  if 3 ≤ value.length ∧ (value.take 2).map tolower = [48, 120] then
    ⟨param_name, value, toInt32 (strtol (value.drop 2) 16), FloatText.ofInt 0⟩
  else
    ⟨param_name, value, atoi value, FloatText.atof value⟩

def configValue (input_buf : Bytes) : Option (LocParamV F) :=
  match strtok_r 61 (cstr input_buf) with
  | none => none
  | some (param_name, lasts) =>
    match strtok_r 61 lasts with
    | none => none
    | some (param_str_value, _) =>
      some (.parsed (loc_util_trim_space param_name) (loc_util_trim_space param_str_value))

/-- How many entries the line filled, and the table. -/
def loc_fill_conf_item (input_buf : Bytes) (config_table : List (LocParamS F)) :
    Nat × List (LocParamS F) :=
  match configValue input_buf with
  | some v =>
    (config_table.countP fun e => (loc_set_config_entry e v).1 = 0,
      config_table.map fun e => (loc_set_config_entry e v).2)
  | none => (0, config_table)

/-- The characters up to the first newline, which is one of them. -/
def lineLength : Bytes → Nat
  | [] => 0
  | b :: file => if b = 10 then 1 else lineLength file + 1

/-- The line and the rest of the file. -/
def fgets (size : Nat) (file : Bytes) : Option (Bytes × Bytes) :=
  if file = [] then none
  else
    let n := min (size - 1) (lineLength file)
    some (file.take n, file.drop n)

/-- The subtraction of unsigned integers. -/
def unsignedSub (a b : Nat) : Nat := if b ≤ a then a - b else a + 2 ^ 32 - b

/-- The validity bit is cleared. -/
def LocParamS.clear (e : LocParamS F) : LocParamS F :=
  { e with param_set := e.param_set.map fun _ => 0 }

/-- The loop of `loc_read_conf_r`; each round but the last takes a character of the file.
`fill` is `loc_fill_conf_item`, which may fail in a caller whose variables are too small. -/
def readLoop {m : Type → Type} [Monad m]
    (fill : Bytes → List (LocParamS F) → m (Nat × List (LocParamS F))) :
    Nat → Nat → Bytes → List (LocParamS F) → m (Bytes × List (LocParamS F))
  | 0, _, conf_fp, config_table => pure (conf_fp, config_table)
  | fuel + 1, num_params, conf_fp, config_table =>
    if num_params = 0 then pure (conf_fp, config_table)
    else match fgets LOC_MAX_PARAM_LINE conf_fp with
      | none => pure (conf_fp, config_table)
      | some (input_buf, conf_fp) => do
        let (filled, config_table) ← fill input_buf config_table
        readLoop fill fuel (unsignedSub num_params filled) conf_fp config_table

/-- The bits are cleared before the first line is read. -/
def readFrom {m : Type → Type} [Monad m]
    (fill : Bytes → List (LocParamS F) → m (Nat × List (LocParamS F))) (conf_fp : Bytes)
    (config_table : List (LocParamS F)) : m (Bytes × List (LocParamS F)) :=
  readLoop fill (conf_fp.length + 1) config_table.length conf_fp
    (config_table.map LocParamS.clear)

/-- The return value, the rest of the file and the table. -/
def loc_read_conf_r (conf_fp : Option Bytes) (config_table : List (LocParamS F)) :
    Int × Option Bytes × List (LocParamS F) :=
  match conf_fp with
  | none => (-1, none, config_table)
  | some file =>
    let (file, config_table) := Id.run <|
      readFrom (fun line t => pure (loc_fill_conf_item line t)) file config_table
    (0, some file, config_table)

end Read

/-! ## The lines of a file -/

theorem lines_eq {file : Bytes} (hfile : file ≠ []) :
    linesOf 10 file =
      file.take (lineLength file) :: linesOf 10 (file.drop (lineLength file)) := by
  induction file with
  | nil => exact absurd rfl hfile
  | cons b file ih =>
    rw [linesOf, lineLength]
    split
    · rfl
    · by_cases hmore : file = []
      · rw [hmore]
        rfl
      · rw [ih hmore]
        rfl

theorem lineLength_pos {file : Bytes} (hfile : file ≠ []) : 0 < lineLength file := by
  cases file with
  | nil => exact absurd rfl hfile
  | cons b file =>
    rw [lineLength]
    split <;> omega

theorem lineLength_le (file : Bytes) : lineLength file ≤ file.length := by
  induction file with
  | nil => exact Nat.le_refl 0
  | cons b file ih =>
    rw [lineLength, List.length_cons]
    split <;> omega

/-- `fgets` takes a line that fits its buffer as a whole. -/
theorem fgets_eq {file : Bytes} (hfile : file ≠ []) {size : Nat}
    (hshort : (file.take (lineLength file)).length < size) :
    fgets size file =
      some (file.take (lineLength file), file.drop (lineLength file)) := by
  rw [List.length_take_of_le (lineLength_le file)] at hshort
  rw [fgets, if_neg hfile]
  show some (file.take (min (size - 1) _), file.drop (min (size - 1) _)) = _
  rw [Nat.min_eq_right (Nat.le_sub_one_of_lt hshort)]

/-! ## Settings -/

/-- The texts before and behind the `=` of a line. Those in front of the first text count for
nothing, as do all but one of those between the two; the second text ends at the next one. -/
structure Operands (line first second : Bytes) : Prop where
  first_ne : first ≠ []
  first_text : 61 ∉ first
  second_ne : second ≠ []
  second_text : 61 ∉ second
  line_eq : ∃ i j behind, cstr line = List.replicate i 61 ++ first ++
    List.replicate (j + 1) 61 ++ second ++ behind ∧ ∀ b ∈ behind.head?, b = 61

theorem operands_iff {line first second : Bytes} : Operands line first second ↔
    ∃ lasts rest, strtok_r 61 (cstr line) = some (first, lasts) ∧
      strtok_r 61 lasts = some (second, rest) := by
  constructor
  · rintro ⟨hfirst, hfirst', hsecond, hsecond', i, j, behind, hline, hbehind⟩
    refine ⟨List.replicate j 61 ++ (second ++ behind), behind.tail,
      strtok_r_eq_some_iff.mpr ⟨hfirst, hfirst', i, 61 :: (List.replicate j 61 ++
        (second ++ behind)), ?_, by simp, rfl⟩,
      strtok_r_eq_some_iff.mpr ⟨hsecond, hsecond', j, behind, rfl, hbehind, rfl⟩⟩
    rw [hline, List.replicate_succ]
    simp
  · rintro ⟨lasts, rest, hfirst, hsecond⟩
    obtain ⟨hne, hno, i, after, hline, hafter, rfl⟩ := strtok_r_eq_some_iff.mp hfirst
    obtain ⟨hne', hno', j, behind, hlasts, hbehind, rfl⟩ := strtok_r_eq_some_iff.mp hsecond
    refine ⟨hne, hno, hne', hno', i, j, behind, ?_, hbehind⟩
    cases after with
    | nil =>
      rw [List.tail_nil] at hlasts
      simp [hne'] at hlasts
    | cons b after =>
      rw [List.tail_cons] at hlasts
      rw [hline, hlasts, hafter b rfl, List.replicate_succ]
      simp

/-- A setting `name=value`: the two texts, each without the white space around it. -/
def Setting (line name value : Bytes) : Prop :=
  ∃ first second, Operands line first second ∧ Trims first name ∧ Trims second value

theorem Setting.nul_not_mem {line name value : Bytes} (h : Setting line name value) :
    0 ∉ value := by
  obtain ⟨first, second, hops, -, htrims⟩ := h
  obtain ⟨i, j, behind, hline, -⟩ := hops.line_eq
  have hsecond : 0 ∉ second := by
    intro hmem
    have hin : 0 ∈ cstr line := by
      rw [hline]
      simp [hmem]
    simpa using List.mem_takeWhile_imp hin
  cases htrims with
  | blank _ => exact hsecond
  | inner _ _ _ _ => exact fun hmem => hsecond (by simp [hmem])

theorem Setting.value_ne_nil {line name value : Bytes} (h : Setting line name value) :
    value ≠ [] := by
  obtain ⟨first, second, hops, -, htrims⟩ := h
  cases htrims with
  | blank _ => exact hops.second_ne
  | inner _ _ hfirst _ =>
    rintro rfl
    obtain ⟨b, hb, -⟩ := hfirst
    cases hb

/-- `0x` and more. -/
def Hex (value : Bytes) : Prop :=
  ∃ x digits, value = 48 :: x :: digits ∧ (x = 120 ∨ x = 88) ∧ digits ≠ []

theorem tolower_eq_x_iff {b : UInt8} : tolower b = 120 ↔ b = 120 ∨ b = 88 := by
  unfold tolower
  grind

theorem tolower_eq_zero_iff {b : UInt8} : tolower b = 48 ↔ b = 48 := by
  unfold tolower
  grind

theorem hex_iff {value : Bytes} :
    Hex value ↔ 3 ≤ value.length ∧ (value.take 2).map tolower = [48, 120] := by
  constructor
  · rintro ⟨x, digits, rfl, hx, hdigits⟩
    have hlen := List.length_pos_iff.mpr hdigits
    refine ⟨by simp only [List.length_cons]; omega, ?_⟩
    simp [tolower_eq_x_iff.mpr hx, tolower_eq_zero_iff.mpr rfl]
  · rintro ⟨hlen, htake⟩
    match value, hlen, htake with
    | b :: x :: c :: digits, _, htake =>
      simp only [List.take_succ_cons, List.take_zero, List.map_cons, List.map_nil,
        List.cons.injEq, and_true] at htake
      exact ⟨x, c :: digits, by rw [tolower_eq_zero_iff.mp htake.1],
        tolower_eq_x_iff.mp htake.2, List.cons_ne_nil c digits⟩

section Value
variable [FloatText F]

/-- What a value is in a variable of a type: a text that is cut, an integer with or without
`0x`, or a number that is 0 for a value with `0x`. -/
inductive Value : UInt8 → Bytes → Variable F → Prop where
  | null : Value 115 (bytesOf ['N', 'U', 'L', 'L']) (.string [])
  | string {value : Bytes} (h : value ≠ bytesOf ['N', 'U', 'L', 'L']) :
    Value 115 value (.string (value.take LOC_MAX_PARAM_STRING))
  | hex {x : UInt8} {digits : Bytes} (hx : x = 120 ∨ x = 88) (h : digits ≠ []) :
    Value 110 (48 :: x :: digits) (.number (toInt32 (strtol digits 16)))
  | decimal {value : Bytes} (h : ¬ Hex value) : Value 110 value (.number (atoi value))
  | hex_double {value : Bytes} (h : Hex value) : Value 102 value (.double (FloatText.ofInt 0))
  | double {value : Bytes} (h : ¬ Hex value) :
    Value 102 value (.double (FloatText.atof value))

@[simp] theorem parsed_param_name (name value : Bytes) :
    (LocParamV.parsed name value : LocParamV F).param_name = name := by
  unfold LocParamV.parsed
  split <;> rfl

@[simp] theorem parsed_param_str_value (name value : Bytes) :
    (LocParamV.parsed name value : LocParamV F).param_str_value = value := by
  unfold LocParamV.parsed
  split <;> rfl

/-- The value of an entry of one of the three types is what the entry is set to. -/
theorem value_parsed {name value : Bytes} (hnul : 0 ∉ value) {param_type : UInt8}
    {x : Variable F} (hx : (LocParamV.parsed name value).converted param_type = some x) :
    Value param_type value x := by
  unfold LocParamV.converted at hx
  rw [parsed_param_str_value, strlcpy, cstr_eq hnul] at hx
  split at hx
  · rename_i htype
    rw [htype]
    split at hx
    · rename_i hnull
      cases hx
      exact hnull ▸ .null
    · rename_i hnull
      cases hx
      exact .string hnull
  · split at hx
    · rename_i htype
      cases hx
      rw [htype]
      by_cases hhex : Hex value
      · rw [LocParamV.parsed, if_pos (hex_iff.mp hhex)]
        obtain ⟨b, digits, rfl, hb, hdigits⟩ := hhex
        exact .hex hb hdigits
      · rw [LocParamV.parsed, if_neg (mt hex_iff.mpr hhex)]
        exact .decimal hhex
    · split at hx
      · rename_i htype
        cases hx
        rw [htype]
        by_cases hhex : Hex value
        · rw [LocParamV.parsed, if_pos (hex_iff.mp hhex)]
          exact .hex_double hhex
        · rw [LocParamV.parsed, if_neg (mt hex_iff.mpr hhex)]
          exact .double hhex
      · cases hx

/-- **A line is parsed exactly if it is a setting.** -/
theorem configValue_eq_some_iff {line : Bytes} {v : LocParamV F} :
    configValue line = some v ↔
      ∃ name value, Setting line name value ∧ v = .parsed name value := by
  unfold configValue
  constructor
  · intro hv
    split at hv
    · cases hv
    · rename_i first lasts hfirst
      split at hv
      · cases hv
      · rename_i second rest hsecond
        exact ⟨_, _, ⟨first, second, operands_iff.mpr ⟨lasts, rest, hfirst, hsecond⟩,
          trim_space_eq_iff.mpr rfl, trim_space_eq_iff.mpr rfl⟩, (Option.some.inj hv).symm⟩
  · rintro ⟨name, value, ⟨first, second, hops, hname, hvalue⟩, rfl⟩
    obtain ⟨lasts, rest, hfirst, hsecond⟩ := operands_iff.mp hops
    simp only [hfirst, hsecond]
    rw [trim_space_eq_iff.mp hname, trim_space_eq_iff.mp hvalue]

theorem Setting.configValue_eq {line name value : Bytes} (h : Setting line name value) :
    configValue line = some (LocParamV.parsed name value : LocParamV F) :=
  configValue_eq_some_iff.mpr ⟨name, value, h, rfl⟩

end Value

/-! ## One line -/

/-- The entry can be set: it has a variable and one of the three types. -/
def LocParamS.settable (e : LocParamS F) : Bool :=
  e.param_ptr.isSome && (e.param_type = 115 || e.param_type = 110 || e.param_type = 102)

theorem converted_isSome (v : LocParamV F) (param_type : UInt8) :
    (v.converted param_type).isSome =
      (param_type = 115 || param_type = 110 || param_type = 102) := by
  unfold LocParamV.converted
  split_ifs <;> simp_all

/-- What a line does to one entry. -/
theorem loc_set_config_entry_eq (e : LocParamS F) (v : LocParamV F) :
    loc_set_config_entry e v =
      if e.param_name = v.param_name ∧ e.settable = true then
        (0, { e with
          param_ptr := v.converted e.param_type
          param_set := e.param_set.map fun _ => 1 })
      else (-1, e) := by
  have hsome := converted_isSome v e.param_type
  unfold loc_set_config_entry LocParamS.settable
  rw [← hsome]
  cases v.converted e.param_type with
  | none => simp
  | some x => simp

theorem set_eq_zero_iff (e : LocParamS F) (v : LocParamV F) :
    (loc_set_config_entry e v).1 = 0 ↔ e.param_name = v.param_name ∧ e.settable = true := by
  rw [loc_set_config_entry_eq]
  split
  · rename_i h
    exact iff_of_true rfl h
  · rename_i h
    exact iff_of_false (by simp) h

/-- Setting an entry leaves its name, its type and its pointers as they are. -/
theorem set_fixed (e : LocParamS F) (v : LocParamV F) :
    (loc_set_config_entry e v).2.param_name = e.param_name ∧
      (loc_set_config_entry e v).2.param_type = e.param_type ∧
      (loc_set_config_entry e v).2.settable = e.settable ∧
      (loc_set_config_entry e v).2.param_set.map (fun _ => (1 : UInt8)) =
        e.param_set.map fun _ => 1 := by
  rw [loc_set_config_entry_eq]
  split
  · rename_i h
    refine ⟨rfl, rfl, ?_, by simp [Function.comp_def]⟩
    have hset := h.2
    simp only [LocParamS.settable, Bool.and_eq_true] at hset ⊢
    simp [converted_isSome, hset.1, hset.2]
  · exact ⟨rfl, rfl, rfl, rfl⟩

/-- The line is a setting of the entry, and the entry can be set. -/
def LocParamS.SetBy (e : LocParamS F) (line : Bytes) : Prop :=
  e.settable = true ∧ ∃ value, Setting line e.param_name value

instance (line name value : Bytes) : Decidable (Setting line name value) :=
  decidable_of_iff ((configValue line : Option (LocParamV Int)).any fun v =>
    decide (v.param_name = name ∧ v.param_str_value = value)) <| by
    simp only [Option.any_eq_true, configValue_eq_some_iff, decide_eq_true_eq]
    constructor
    · rintro ⟨_, ⟨_, _, h, rfl⟩, hname, hvalue⟩
      rw [parsed_param_name] at hname
      rw [parsed_param_str_value] at hvalue
      exact hname ▸ hvalue ▸ h
    · exact fun h => ⟨_, ⟨name, value, h, rfl⟩, parsed_param_name .., parsed_param_str_value ..⟩

instance (line name : Bytes) : Decidable (∃ value, Setting line name value) :=
  decidable_of_iff ((configValue line : Option (LocParamV Int)).any fun v =>
    decide (v.param_name = name)) <| by
    simp only [Option.any_eq_true, configValue_eq_some_iff, decide_eq_true_eq]
    constructor
    · rintro ⟨_, ⟨_, value, h, rfl⟩, hname⟩
      rw [parsed_param_name] at hname
      exact ⟨value, hname ▸ h⟩
    · exact fun ⟨value, h⟩ => ⟨_, ⟨_, value, h, rfl⟩, parsed_param_name ..⟩

instance (e : LocParamS F) (line : Bytes) : Decidable (e.SetBy line) :=
  inferInstanceAs (Decidable (_ ∧ _))

/-- The line sets an entry of the table. -/
def fills (config_table : List (LocParamS F)) (line : Bytes) : Bool :=
  config_table.any fun e => decide (e.SetBy line)

theorem fills_singleton_iff {e : LocParamS F} {line : Bytes} :
    fills [e] line = true ↔ e.SetBy line := by
  simp [fills]

/-- A line sets a record of the table exactly if it does so of one of them. -/
theorem fills_iff {config_table : List (LocParamS F)} {line : Bytes} :
    fills config_table line = true ↔ ∃ e ∈ config_table, fills [e] line = true := by
  simp [fills]

/-! ## Which lines are read -/

/-- The lines up to the one that fills the last of `num_params` parameters. -/
def linesRead (config_table : List (LocParamS F)) : Nat → List Bytes → List Bytes
  | 0, _ => []
  | _ + 1, [] => []
  | num_params + 1, line :: rest =>
    line :: linesRead config_table
      (if fills config_table line then num_params else num_params + 1) rest

theorem linesRead_congr {table table' : List (LocParamS F)}
    (h : ∀ line, fills table line = fills table' line) (num_params : Nat) (file : List Bytes) :
    linesRead table num_params file = linesRead table' num_params file := by
  induction file generalizing num_params with
  | nil => cases num_params <;> rfl
  | cons line rest ih =>
    cases num_params with
    | zero => rfl
    | succ n => rw [linesRead, linesRead, ih, h line]

theorem linesRead_initial (config_table : List (LocParamS F)) (num_params : Nat)
    (file : List Bytes) : linesRead config_table num_params file <+: file := by
  induction file generalizing num_params with
  | nil => cases num_params <;> exact List.nil_prefix
  | cons line rest ih =>
    cases num_params with
    | zero => exact List.nil_prefix
    | succ n => exact List.prefix_cons_inj line |>.mpr (ih _)

/-- As many of the lines read fill an entry as are asked for, if the file has so many. -/
theorem countP_linesRead (config_table : List (LocParamS F)) (num_params : Nat)
    (file : List Bytes) :
    (linesRead config_table num_params file).countP (fills config_table) =
      min num_params (file.countP (fills config_table)) := by
  induction file generalizing num_params with
  | nil => cases num_params <;> simp [linesRead]
  | cons line rest ih =>
    cases num_params with
    | zero => simp [linesRead]
    | succ n =>
      rw [linesRead, List.countP_cons, List.countP_cons, ih]
      split <;> omega

/-- No line that fills an entry is left out, if there are no more than are asked for. -/
theorem mem_linesRead {config_table : List (LocParamS F)} {num_params : Nat}
    {file : List Bytes} (hfew : file.countP (fills config_table) ≤ num_params)
    {line : Bytes} (hline : line ∈ file) (hfills : fills config_table line = true) :
    line ∈ linesRead config_table num_params file := by
  have hsub := (linesRead_initial config_table num_params file).sublist.filter (fills config_table)
  have hlen : (file.filter (fills config_table)).length ≤
      ((linesRead config_table num_params file).filter (fills config_table)).length := by
    rw [← List.countP_eq_length_filter, ← List.countP_eq_length_filter, countP_linesRead]
    omega
  have hmem := List.mem_filter.mpr ⟨hline, hfills⟩
  rw [← hsub.eq_of_length_le hlen] at hmem
  exact (List.mem_filter.mp hmem).1

/-- If each of the next lines sets a record, one line is taken for each that is asked for. -/
theorem linesRead_of_fills {config_table : List (LocParamS F)} {num_params : Nat}
    {lines : List Bytes} (h : ∀ line ∈ lines.take num_params, fills config_table line = true) :
    linesRead config_table num_params lines = lines.take num_params := by
  induction lines generalizing num_params with
  | nil => cases num_params <;> rfl
  | cons line lines ih =>
    cases num_params with
    | zero => rfl
    | succ n =>
      rw [List.take_succ_cons] at h ⊢
      rw [linesRead, if_pos (h line (List.mem_cons_self ..)),
        ih fun l hl => h l (List.mem_cons_of_mem _ hl)]

/-- All the lines are taken if too few of them set a record. -/
theorem linesRead_of_few {config_table : List (LocParamS F)} {num_params : Nat}
    {lines : List Bytes} (h : lines.countP (fills config_table) < num_params) :
    linesRead config_table num_params lines = lines := by
  induction lines generalizing num_params with
  | nil => cases num_params <;> rfl
  | cons line lines ih =>
    cases num_params with
    | zero => exact absurd h (Nat.not_lt_zero _)
    | succ n =>
      rw [List.countP_cons] at h
      rw [linesRead, ih]
      split <;> simp_all

/-! ## Filling the table -/

section Fill
variable [FloatText F]

theorem fills_of_none {line : Bytes} (hline : (configValue line : Option (LocParamV F)) = none)
    (config_table : List (LocParamS F)) : fills config_table line = false := by
  refine List.any_eq_false.mpr fun e _ => ?_
  rw [decide_eq_true_eq]
  rintro ⟨-, value, h⟩
  have hsome := h.configValue_eq (F := F)
  rw [hline] at hsome
  cases hsome

theorem setBy_iff {line : Bytes} {v : LocParamV F} (hline : configValue line = some v)
    {e : LocParamS F} : e.SetBy line ↔ e.param_name = v.param_name ∧ e.settable = true := by
  constructor
  · rintro ⟨hset, value, h⟩
    have hsome := h.configValue_eq (F := F)
    rw [hline] at hsome
    rw [Option.some.inj hsome, parsed_param_name]
    exact ⟨rfl, hset⟩
  · rintro ⟨hname, hset⟩
    obtain ⟨name, value, h, rfl⟩ := configValue_eq_some_iff.mp hline
    rw [parsed_param_name] at hname
    exact ⟨hset, value, hname ▸ h⟩

theorem fills_of_some {line : Bytes} {v : LocParamV F} (hline : configValue line = some v)
    (config_table : List (LocParamS F)) : fills config_table line =
      config_table.any fun e => decide (e.param_name = v.param_name ∧ e.settable = true) := by
  simp only [fills, setBy_iff hline]

/-- The table after the lines. -/
def fillAll (read : List Bytes) (config_table : List (LocParamS F)) : List (LocParamS F) :=
  read.foldl (fun config_table line => (loc_fill_conf_item line config_table).2) config_table

/-- With distinct names a line fills one entry or none. -/
theorem filled_eq (line : Bytes) {config_table : List (LocParamS F)}
    (hnames : (config_table.map (·.param_name)).Nodup) :
    (loc_fill_conf_item line config_table).1 = if fills config_table line then 1 else 0 := by
  unfold loc_fill_conf_item
  cases hline : (configValue line : Option (LocParamV F)) with
  | none => rw [fills_of_none hline]; rfl
  | some v =>
    show config_table.countP (fun e => decide ((loc_set_config_entry e v).1 = 0)) = _
    simp only [set_eq_zero_iff, fills_of_some hline]
    have hone := List.nodup_iff_count_le_one.mp hnames v.param_name
    rw [List.count, List.countP_map] at hone
    have hle : config_table.countP
          (fun e => decide (e.param_name = v.param_name ∧ e.settable = true)) ≤ 1 := by
      refine (List.countP_mono_left fun e _ he => ?_).trans hone
      exact beq_iff_eq.mpr (of_decide_eq_true he).1
    split
    · rename_i hany
      have hpos := List.countP_pos_iff.mpr (List.any_eq_true.mp hany)
      omega
    · rename_i hnone
      exact List.countP_eq_zero.mpr fun e he hset =>
        hnone (List.any_eq_true.mpr ⟨e, he, hset⟩)

/-- Names and types stay: a line that fills an entry would do so after any other. -/
theorem fills_fill (line : Bytes) (config_table : List (LocParamS F)) (other : Bytes) :
    fills (loc_fill_conf_item line config_table).2 other = fills config_table other := by
  unfold loc_fill_conf_item
  cases (configValue line : Option (LocParamV F)) with
  | none => rfl
  | some v =>
    have hfixed : ∀ e : LocParamS F, (loc_set_config_entry e v).2.SetBy other ↔
        e.SetBy other := by
      intro e
      obtain ⟨hname, -, hset, -⟩ := set_fixed e v
      rw [LocParamS.SetBy, hname, hset, LocParamS.SetBy]
    simp only [fills, List.any_map, Function.comp_def, hfixed]

theorem names_fill (line : Bytes) (config_table : List (LocParamS F)) :
    (loc_fill_conf_item line config_table).2.map (·.param_name) =
      config_table.map (·.param_name) := by
  unfold loc_fill_conf_item
  cases (configValue line : Option (LocParamV F)) with
  | none => rfl
  | some v =>
    simp only [List.map_map, Function.comp_def, set_fixed]

/-! ## The loop -/

/-- **The loop reads these lines and no others.** -/
theorem readLoop_eq {fuel : Nat} (num_params : Nat) {file : Bytes} (hfuel : file.length < fuel)
    (hshort : ∀ line ∈ linesOf 10 file, line.length < LOC_MAX_PARAM_LINE)
    {config_table : List (LocParamS F)} (hnames : (config_table.map (·.param_name)).Nodup) :
    (Id.run (readLoop (fun line t => pure (loc_fill_conf_item line t)) fuel num_params file
        config_table)).2 =
      fillAll (linesRead config_table num_params (linesOf 10 file)) config_table := by
  induction fuel generalizing num_params file config_table with
  | zero => omega
  | succ fuel ih =>
    cases num_params with
    | zero => cases linesOf 10 file <;> rfl
    | succ n =>
      by_cases hfile : file = []
      · rw [hfile]
        rfl
      · rw [lines_eq hfile] at hshort ⊢
        have hget := fgets_eq hfile (hshort _ (List.mem_cons_self ..))
        set line := file.take (lineLength file)
        have hrest : (file.drop (lineLength file)).length < fuel := by
          have hpos := lineLength_pos hfile
          have hle := lineLength_le file
          rw [List.length_drop]
          omega
        rw [readLoop, if_neg (Nat.succ_ne_zero n), hget, linesRead, fillAll, List.foldl_cons]
        show (Id.run (readLoop _ fuel (unsignedSub (n + 1)
          (loc_fill_conf_item line config_table).1) _ (loc_fill_conf_item line config_table).2)).2 = _
        rw [ih _ hrest (fun l hl => hshort l (List.mem_cons_of_mem _ hl)) (by rwa [names_fill]),
          filled_eq line hnames, linesRead_congr (fills_fill line config_table)]
        have hsub : unsignedSub (n + 1) (if fills config_table line then 1 else 0) =
            if fills config_table line then n else n + 1 := by
          split <;> rfl
        rw [hsub]
        rfl

/-! ## Entries -/

/-- The line is a setting of the entry, and `x` its value in the entry's variable. -/
def LocParamS.Given (e : LocParamS F) (line : Bytes) (x : Variable F) : Prop :=
  ∃ value, Setting line e.param_name value ∧ Value e.param_type value x

/-- What the lines make of an entry: one that they name is set, and holds a value that one
of them gives it (nothing is said of a value of spaces only); any other is cleared and keeps
its value. -/
structure Outcome (read : List Bytes) (e e' : LocParamS F) : Prop where
  set : (∃ line ∈ read, e.SetBy line) → e'.param_set = e.param_set.map (fun _ => 1) ∧
    ∃ line ∈ read, ∃ value, Setting line e.param_name value ∧
      (value.all isSpace = false → ∃ x, e'.param_ptr = some x ∧ Value e.param_type value x)
  kept : (¬ ∃ line ∈ read, e.SetBy line) → e' = e.clear
  fixed : e'.param_name = e.param_name ∧ e'.param_type = e.param_type

def setEntry (e : LocParamS F) (line : Bytes) : LocParamS F :=
  match configValue line with
  | some v => (loc_set_config_entry e v).2
  | none => e

theorem setEntry_eq {line : Bytes} {v : LocParamV F} (hline : configValue line = some v)
    (e : LocParamS F) : setEntry e line = (loc_set_config_entry e v).2 := by
  rw [setEntry, hline]

theorem fillAll_eq (read : List Bytes) (config_table : List (LocParamS F)) :
    fillAll read config_table = config_table.map fun e => read.foldl setEntry e := by
  induction read generalizing config_table with
  | nil => simp [fillAll]
  | cons line read ih =>
    have hline : (loc_fill_conf_item line config_table).2 =
        config_table.map fun e => setEntry e line := by
      unfold loc_fill_conf_item setEntry
      cases (configValue line : Option (LocParamV F)) with
      | none => simp
      | some v => rfl
    show fillAll read (loc_fill_conf_item line config_table).2 = _
    rw [ih, hline, List.map_map]
    rfl

/-- The entry behind the lines has the name, the type and the pointers of the one before. -/
theorem foldl_fixed (read : List Bytes) (e : LocParamS F) :
    (read.foldl setEntry e).param_name = e.param_name ∧
      (read.foldl setEntry e).param_type = e.param_type ∧
      (read.foldl setEntry e).settable = e.settable ∧
      (read.foldl setEntry e).param_set.map (fun _ => (1 : UInt8)) =
        e.param_set.map fun _ => 1 := by
  induction read generalizing e with
  | nil => exact ⟨rfl, rfl, rfl, rfl⟩
  | cons line read ih =>
    have hline : (setEntry e line).param_name = e.param_name ∧
        (setEntry e line).param_type = e.param_type ∧
        (setEntry e line).settable = e.settable ∧
        (setEntry e line).param_set.map (fun _ => (1 : UInt8)) =
          e.param_set.map fun _ => 1 := by
      unfold setEntry
      cases (configValue line : Option (LocParamV F)) with
      | none => exact ⟨rfl, rfl, rfl, rfl⟩
      | some v => exact set_fixed e v
    obtain ⟨hname, htype, hset, hptr⟩ := ih (setEntry e line)
    rw [List.foldl_cons, hname, htype, hset, hptr]
    exact hline

/-- What the lines make of an entry that is not cleared before. -/
structure Applied (read : List Bytes) (e e' : LocParamS F) : Prop where
  set : (∃ line ∈ read, e.SetBy line) → e'.param_set = e.param_set.map (fun _ => 1) ∧
    ∃ line ∈ read, ∃ x, e.Given line x ∧ e'.param_ptr = some x
  kept : (¬ ∃ line ∈ read, e.SetBy line) → e' = e
  fixed : e'.param_name = e.param_name ∧ e'.param_type = e.param_type

/-- What a line does to an entry. -/
theorem setEntry_of_not {e : LocParamS F} {line : Bytes} (h : ¬ e.SetBy line) :
    setEntry e line = e := by
  cases hline : (configValue line : Option (LocParamV F)) with
  | none => rw [setEntry, hline]
  | some v => rw [setEntry_eq hline, loc_set_config_entry_eq, if_neg (mt (setBy_iff hline).mpr h)]

theorem setEntry_of_setBy {e : LocParamS F} {line : Bytes} (h : e.SetBy line) :
    ∃ x, e.Given line x ∧ setEntry e line = { e with
      param_ptr := some x
      param_set := e.param_set.map fun _ => 1 } := by
  obtain ⟨hset, value, hsetting⟩ := h
  have hline := hsetting.configValue_eq (F := F)
  have hsome : ((LocParamV.parsed e.param_name value : LocParamV F).converted
      e.param_type).isSome = true := by
    rw [converted_isSome]
    exact (Bool.and_eq_true _ _ ▸ hset : _ ∧ _).2
  obtain ⟨x, hx⟩ := Option.isSome_iff_exists.mp hsome
  refine ⟨x, ⟨value, hsetting, value_parsed hsetting.nul_not_mem hx⟩, ?_⟩
  rw [setEntry_eq hline, loc_set_config_entry_eq, if_pos ⟨(parsed_param_name ..).symm, hset⟩, hx]

/-- The last line that names the entry decides, by induction on the lines read so far. -/
theorem applied_foldl (read : List Bytes) (e : LocParamS F) :
    Applied read e (read.foldl setEntry e) := by
  induction read using List.reverseRecOn with
  | nil => exact ⟨fun ⟨_, hline, _⟩ => absurd hline (by simp), fun _ => rfl, rfl, rfl⟩
  | append_singleton read line ih =>
    rw [List.foldl_append]
    obtain ⟨hname, htype, hset, hptr⟩ := foldl_fixed read e
    set e' := read.foldl setEntry e
    have hsetBy : ∀ l, e'.SetBy l ↔ e.SetBy l := fun l => by
      rw [LocParamS.SetBy, hname, hset, LocParamS.SetBy]
    show Applied (read ++ [line]) e (setEntry e' line)
    by_cases hnamed : e.SetBy line
    · obtain ⟨x, hgiven, hnew⟩ := setEntry_of_setBy ((hsetBy line).mpr hnamed)
      rw [LocParamS.Given, hname, htype] at hgiven
      rw [hnew]
      exact ⟨fun _ => ⟨hptr, line, by simp, x, hgiven, rfl⟩,
        fun hno => absurd ⟨line, by simp, hnamed⟩ hno, hname, htype⟩
    · rw [setEntry_of_not (mt (hsetBy line).mp hnamed)]
      refine ⟨?_, fun hno => ih.kept fun ⟨l, hl, hv⟩ =>
        hno ⟨l, List.mem_append_left _ hl, hv⟩, hname, htype⟩
      rintro ⟨l, hl, hv⟩
      rcases List.mem_append.mp hl with hl | hl
      · obtain ⟨hbit, l', hl', hvalue⟩ := ih.set ⟨l, hl, hv⟩
        exact ⟨hbit, l', List.mem_append_left _ hl', hvalue⟩
      · rw [List.mem_singleton.mp hl] at hv
        exact absurd hv hnamed

theorem Applied.outcome {read : List Bytes} {e e' : LocParamS F}
    (h : Applied read e.clear e') : Outcome read e e' := by
  refine ⟨fun hline => ?_, h.kept, h.fixed⟩
  obtain ⟨hbit, line, hmem, x, ⟨value, hsetting, hvalue⟩, hx⟩ := h.set hline
  refine ⟨hbit.trans ?_, line, hmem, value, hsetting, fun _ => ⟨x, hx, hvalue⟩⟩
  rw [LocParamS.clear, Option.map_map]
  rfl

theorem loc_read_conf_r_eq {file : Bytes} {config_table : List (LocParamS F)}
    (hshort : ∀ line ∈ linesOf 10 file, line.length < LOC_MAX_PARAM_LINE)
    (hnames : (config_table.map (·.param_name)).Nodup) :
    (loc_read_conf_r (some file) config_table).2.2 = config_table.map fun e =>
      (linesRead config_table config_table.length (linesOf 10 file)).foldl setEntry e.clear := by
  have hnames' : ((config_table.map LocParamS.clear).map (·.param_name)).Nodup := by
    rwa [List.map_map]
  have hfills : ∀ line, fills (config_table.map LocParamS.clear) line =
      fills config_table line := by
    intro line
    simp only [fills, List.any_map]
    rfl
  have hloop := readLoop_eq config_table.length (Nat.lt_succ_self file.length) hshort hnames'
  show (Id.run (readLoop _ (file.length + 1) _ _ _)).2 = _
  rw [hloop, fillAll_eq, linesRead_congr hfills, List.map_map]
  rfl

/-- Lines that do not name the entry make no difference. -/
theorem Applied.of_subset {read file : List Bytes} {e e' : LocParamS F}
    (h : Applied read e e') (hread : ∀ line ∈ read, line ∈ file)
    (hfile : ∀ line ∈ file, e.SetBy line → line ∈ read) : Applied file e e' := by
  refine ⟨?_, fun hno => h.kept fun ⟨line, hline, hv⟩ => hno ⟨line, hread line hline, hv⟩, h.fixed⟩
  rintro ⟨line, hline, hv⟩
  obtain ⟨hbit, l, hl, hvalue⟩ := h.set ⟨line, hfile line hline hv, hv⟩
  exact ⟨hbit, l, hread l hl, hvalue⟩

/-- **Reading a configuration file.** Of the lines up to the one that fills as many
parameters as the table has, each entry that one of them names is set and holds the value of
one of them, and each other entry is cleared and keeps its value. -/
theorem loc_read_conf_r_entries (file : Bytes) (config_table : List (LocParamS F))
    (hshort : ∀ line ∈ linesOf 10 file, line.length < LOC_MAX_PARAM_LINE)
    (hnames : (config_table.map (·.param_name)).Nodup) :
    List.Forall₂ (Outcome (linesRead config_table config_table.length (linesOf 10 file)))
      config_table (loc_read_conf_r (some file) config_table).2.2 := by
  rw [loc_read_conf_r_eq hshort hnames, List.forall₂_map_right_iff]
  exact List.forall₂_same.mpr fun e _ => (applied_foldl _ e.clear).outcome

/-- A table of two numbers. -/
def twoNumbers : List (LocParamS Int) :=
  [⟨bytesOf ['A'], some (.number 9), some 7, 110⟩, ⟨bytesOf ['B'], some (.number 9), some 7, 110⟩]

theorem one_key_read :
    List.Forall₂ (Outcome (linesRead twoNumbers 2 (linesOf 10 (bytesOf ['B', '=', '5'] ++ [10]))))
      twoNumbers (loc_read_conf_r (some (bytesOf ['B', '=', '5'] ++ [10])) twoNumbers).2.2 :=
  loc_read_conf_r_entries _ _ (by decide) (by decide)

/-- With one key on two lines the table counts as filled before the next key is read: the
entry that the last line names keeps its old value and is not set. -/
theorem repeated_key_hides_next :
    let file := bytesOf ['A', '=', '1'] ++ [10] ++ bytesOf ['A', '=', '2'] ++ [10] ++
      bytesOf ['B', '=', '3'] ++ [10]
    (∀ line ∈ linesOf 10 file, line.length < LOC_MAX_PARAM_LINE) ∧
      (twoNumbers.map (·.param_name)).Nodup ∧
      (bytesOf ['B', '=', '3'] ++ [10] ∈ linesOf 10 file ∧
        Setting (bytesOf ['B', '=', '3'] ++ [10]) (bytesOf ['B']) (bytesOf ['3'])) ∧
      (loc_read_conf_r (some file) twoNumbers).2.2 =
        [⟨bytesOf ['A'], some (.number 2), some 1, 110⟩,
          ⟨bytesOf ['B'], some (.number 9), some 0, 110⟩] := by
  decide

/-- A file counts as a whole if no more of its lines fill an entry than the table has entries:
so it is without repeated keys. -/
theorem loc_read_conf_r_all (file : Bytes) (config_table : List (LocParamS F))
    (hshort : ∀ line ∈ linesOf 10 file, line.length < LOC_MAX_PARAM_LINE)
    (hnames : (config_table.map (·.param_name)).Nodup)
    (hfew : (linesOf 10 file).countP (fills config_table) ≤ config_table.length) :
    List.Forall₂ (Outcome (linesOf 10 file)) config_table
      (loc_read_conf_r (some file) config_table).2.2 := by
  rw [loc_read_conf_r_eq hshort hnames, List.forall₂_map_right_iff]
  refine List.forall₂_same.mpr fun e he =>
    ((applied_foldl _ e.clear).of_subset ?_ ?_).outcome
  · intro line hline
    exact (linesRead_initial config_table config_table.length (linesOf 10 file)).subset hline
  · intro line hline hset
    exact mem_linesRead hfew hline (List.any_eq_true.mpr ⟨e, he, decide_eq_true hset⟩)

end Fill

end DeviceHal.Utils.LocCfg
