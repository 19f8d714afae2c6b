import DeviceHal.Lib.Lines
import Mathlib.Data.List.TakeWhile
import Mathlib.Tactic

/-! # The hashes of the proprietary files

`update-sha1sums.py` rewrites the list of proprietary files: it puts a SHA1 hash
behind each file of the sections that say where they are from, and with `-c` it
drops all hashes. An exception leaves the list as it is. -/
namespace DeviceHal.Blobs.Sha1Sums
open DeviceHal.Lib.Lines

abbrev Text := List Char

abbrev Bytes := List UInt8

/-! ## The script -/

/-- Reading in text mode with universal newlines: every end of a line becomes `\n`. -/
def universalNewlines : Text → Text
  | '\r' :: '\n' :: text => '\n' :: universalNewlines text
  | '\r' :: text => '\n' :: universalNewlines text
  | c :: text => c :: universalNewlines text
  | [] => []

/-- The lines of the list. Python 3 opens a text with universal newlines, Python 2 does not. -/
def readLines (universal : Bool) (file : Text) : List Text :=
  linesOf '\n' (if universal then universalNewlines file else file)

def vendorPath : Text := "../../../vendor/oneplus/oneplus3/proprietary".toList

/-- `hexdigest` of a digest. -/
def hexdigest (digest : Bytes) : Text :=
  digest.flatMap fun b => [Nat.digitChar (b.toNat / 16), Nat.digitChar (b.toNat % 16)]

/-- The body of the loop of `cleanup`. -/
def cleanupLine (l : Text) : Text :=
  let line := l.dropLast
  if line = [] ∨ line.head? = some '#' then l
  else if '|' ∈ line then line.takeWhile (· ≠ '|') ++ ['\n'] else l

def cleanup (lines : List Text) : List Text := lines.map cleanupLine

section
variable (read : Text → Option Bytes) (sha1 : Bytes → Bytes)

def filePathOf (line : Text) : Text :=
  match line.splitOn ':' with
  | [_, filePath] => filePath
  | _ => line

/-- The new line with the hash of its file; `none` is an exception. -/
def hashLine (line : Text) : Option Text := do
  let line := line.takeWhile (· ≠ '|')
  let filePath := filePathOf line
  let first ← filePath.head?
  let file ← read (vendorPath ++ '/' :: if first = '-' then filePath.tail else filePath)
  some (line ++ '|' :: hexdigest (sha1 file) ++ ['\n'])

/-- What a comment says above files of another origin. -/
def fromMark : Text := " - from".toList

/-- The body of the loop of `update`; `needSHA1` is a local variable that has no value at first. -/
def updateLine (needSHA1 : Option Bool) (l : Text) : Option (Option Bool × Text) :=
  let line := l.dropLast
  if line = [] then some (needSHA1, l)
  else if line.head? = some '#' then some (some (decide (fromMark <:+: line)), l)
  else needSHA1.bind fun need =>
    if need then (hashLine read sha1 line).map (needSHA1, ·) else some (needSHA1, l)

def updateLoop : Option Bool → List Text → Option (List Text)
  | _, [] => some []
  | needSHA1, l :: lines => do
    let (needSHA1, l) ← updateLine read sha1 needSHA1 l
    let lines ← updateLoop needSHA1 lines
    some (l :: lines)

def update (lines : List Text) : Option (List Text) := updateLoop read sha1 none lines

/-- What the script writes to the list; `none` leaves it as it is. -/
def updateSha1sums (universal : Bool) (argv : List Text) (file : Text) : Option Text :=
  let lines := readLines universal file
  if argv.length = 2 ∧ argv[1]? = some "-c".toList then some (cleanup lines).flatten
  else (update read sha1 lines).map List.flatten

end

/-! ## Lines -/

theorem cr_not_mem_universalNewlines (text : Text) : '\r' ∉ universalNewlines text := by
  induction text using universalNewlines.induct with
  | case1 text ih => simpa [universalNewlines] using ih
  | case2 text hnext ih => simpa [universalNewlines] using ih
  | case3 c text hpair hcr ih =>
    rw [universalNewlines]
    · exact fun h => (List.mem_cons.mp h).elim (fun hc => hcr hc.symm) ih
    all_goals assumption
  | case4 => simp [universalNewlines]

theorem universalNewlines_cons {c : Char} (hc : c ≠ '\r') (text : Text) :
    universalNewlines (c :: text) = c :: universalNewlines text := by
  rw [universalNewlines]
  · exact fun _ heq _ => hc heq
  · exact hc

/-- Text without carriage returns is read as it is. -/
theorem universalNewlines_eq {text : Text} (h : '\r' ∉ text) : universalNewlines text = text := by
  induction text with
  | nil => rfl
  | cons c text ih =>
    obtain ⟨hc, hrest⟩ := not_or.mp (List.mem_cons.not.mp h)
    rw [universalNewlines_cons (Ne.symm hc), ih hrest]

theorem getLast?_universalNewlines {text : Text} (h : text.getLast? = some '\n') :
    (universalNewlines text).getLast? = some '\n' := by
  obtain ⟨body, rfl⟩ := List.getLast?_eq_some_iff.mp h
  clear h
  obtain ⟨body', hbody⟩ : ∃ body', universalNewlines (body ++ ['\n']) = body' ++ ['\n'] := by
    induction body using universalNewlines.induct with
    | case1 text ih =>
      obtain ⟨body', hbody⟩ := ih
      exact ⟨'\n' :: body', congrArg ('\n' :: ·) hbody⟩
    | case2 text hnext ih =>
      cases text with
      | nil => exact ⟨[], rfl⟩
      | cons c text =>
        obtain ⟨body', hbody⟩ := ih
        have hnext' : ∀ text', c :: text ++ ['\n'] = '\n' :: text' → False :=
          fun _ heq => hnext text (congrArg (· :: text) (List.cons.inj heq).1)
        refine ⟨'\n' :: body', ?_⟩
        rw [List.cons_append, universalNewlines, hbody]
        · rfl
        · exact hnext'
    | case3 c text hpair hcr ih =>
      obtain ⟨body', hbody⟩ := ih
      exact ⟨c :: body', by rw [List.cons_append, universalNewlines_cons hcr, hbody]; rfl⟩
    | case4 => exact ⟨[], rfl⟩
  rw [hbody]
  simp

/-! ## Hashes -/

theorem ne_nil_of_filePathOf {line : Text} {first : Char} (h : (filePathOf line).head? = some first) :
    line ≠ [] := by
  rintro rfl
  simp [filePathOf] at h

theorem not_mem_hexdigest {c : Char} (hc : ∀ d < 16, Nat.digitChar d ≠ c) (digest : Bytes) :
    c ∉ hexdigest digest := by
  intro hmem
  obtain ⟨b, -, hb⟩ := List.mem_flatMap.mp hmem
  have hlt : b.toNat < 256 := b.toNat_lt
  have hhigh := hc (b.toNat / 16) (by omega)
  have hlow := hc (b.toNat % 16) (by omega)
  simp [hhigh.symm, hlow.symm] at hb

section
variable {read : Text → Option Bytes} {sha1 : Bytes → Bytes} {needSHA1 needSHA1' : Option Bool}
  {line l l' : Text}

/-- A new line is what stood before the hash, and the hash. -/
theorem hashLine_eq (h : hashLine read sha1 line = some l') :
    ∃ digest, l' = line.takeWhile (· ≠ '|') ++ '|' :: hexdigest digest ++ ['\n'] ∧
      line.takeWhile (· ≠ '|') ≠ [] := by
  unfold hashLine at h
  dsimp only at h
  obtain ⟨first, hfirst, h⟩ := Option.bind_eq_some_iff.mp h
  obtain ⟨file, -, h⟩ := Option.bind_eq_some_iff.mp h
  exact ⟨sha1 file, (Option.some.inj h).symm, ne_nil_of_filePathOf hfirst⟩

/-- Only what stands before the hash counts. -/
theorem hashLine_congr {line line' : Text}
    (h : line'.takeWhile (· ≠ '|') = line.takeWhile (· ≠ '|')) :
    hashLine read sha1 line' = hashLine read sha1 line := by
  rw [hashLine, hashLine, h]

/-- A line is kept, or it gets its hash. -/
theorem updateLine_cases (h : updateLine read sha1 needSHA1 l = some (needSHA1', l')) :
    l' = l ∨ needSHA1 = some true ∧ needSHA1' = needSHA1 ∧ l.dropLast ≠ [] ∧
      l.dropLast.head? ≠ some '#' ∧ hashLine read sha1 l.dropLast = some l' := by
  unfold updateLine at h
  dsimp only at h
  split at h
  next => exact .inl (Prod.mk.inj (Option.some.inj h)).2.symm
  next hline =>
    split at h
    next => exact .inl (Prod.mk.inj (Option.some.inj h)).2.symm
    next hhead =>
      obtain ⟨need, rfl, h⟩ := Option.bind_eq_some_iff.mp h
      cases need with
      | false => exact .inl (Prod.mk.inj (Option.some.inj h)).2.symm
      | true =>
        obtain ⟨new, hnew, heq⟩ := Option.map_eq_some_iff.mp h
        obtain ⟨hneed, rfl⟩ := Prod.mk.inj heq
        exact .inr ⟨rfl, hneed.symm, hline, hhead, hnew⟩

/-- What the loops make of a line with a hash. -/
theorem dropLast_hashed {path : Text} (hash : Text) (hpath : '|' ∉ path) (hne : path ≠ []) :
    (path ++ '|' :: hash ++ ['\n']).dropLast = path ++ '|' :: hash ∧
      (path ++ '|' :: hash).takeWhile (· ≠ '|') = path ∧
      (path ++ '|' :: hash).head? = path.head? := by
  refine ⟨List.dropLast_concat, ?_, List.head?_append_of_ne_nil path hne⟩
  have hall : ∀ c ∈ path, decide (c ≠ '|') = true := by
    intro c hc
    simpa using fun (heq : c = '|') => hpath (heq ▸ hc)
  rw [List.takeWhile_append_of_pos hall]
  simp

theorem bar_not_mem_path (line : Text) : '|' ∉ line.takeWhile (· ≠ '|') := by
  intro hmem
  simpa using List.mem_takeWhile_imp hmem

theorem head?_path {line : Text} (hne : line.takeWhile (· ≠ '|') ≠ []) :
    (line.takeWhile (· ≠ '|')).head? = line.head? := by
  cases line with
  | nil => rfl
  | cons c line =>
    by_cases hc : c = '|'
    · simp [hc] at hne
    · simp [hc]

/-- A line that was written is written again. -/
theorem updateLine_again (h : updateLine read sha1 needSHA1 l = some (needSHA1', l')) :
    updateLine read sha1 needSHA1 l' = some (needSHA1', l') := by
  rcases updateLine_cases h with rfl | ⟨rfl, rfl, hline, hhead, hnew⟩
  · exact h
  · obtain ⟨digest, rfl, hne⟩ := hashLine_eq hnew
    obtain ⟨hdrop, htake, hhead'⟩ :=
      dropLast_hashed (hexdigest digest) (bar_not_mem_path l.dropLast) hne
    have hagain := (hashLine_congr htake).trans hnew
    unfold updateLine
    dsimp only
    rw [hdrop, hhead', head?_path hne, if_neg (by simp), if_neg hhead, Option.bind_some, if_pos rfl,
      hagain]
    rfl

/-- `cleanup` makes the same of a whole line with its new hash and without. -/
theorem cleanupLine_update {body : Text}
    (h : updateLine read sha1 needSHA1 (body ++ ['\n']) = some (needSHA1', l')) :
    cleanupLine l' = cleanupLine (body ++ ['\n']) := by
  rcases updateLine_cases h with rfl | ⟨rfl, rfl, hline, hhead, hnew⟩
  · rfl
  · rw [List.dropLast_concat] at hline hhead hnew
    obtain ⟨digest, rfl, hne⟩ := hashLine_eq hnew
    obtain ⟨hdrop, htake, hhead'⟩ :=
      dropLast_hashed (hexdigest digest) (bar_not_mem_path body) hne
    have hold : ¬(body = [] ∨ body.head? = some '#') := not_or.mpr ⟨hline, hhead⟩
    unfold cleanupLine
    dsimp only
    rw [hdrop, htake, hhead', head?_path hne, List.dropLast_concat, if_neg (by simp [hhead]),
      if_pos (by simp), if_neg hold]
    split
    next => rfl
    next hbar =>
      have hwhole : body.takeWhile (· ≠ '|') = body := by
        rw [List.takeWhile_eq_self_iff]
        intro c hc
        simpa using fun (heq : c = '|') => hbar (heq ▸ hc)
      rw [hwhole]

end

/-! ## A second run -/

/-- A line that was kept, or a new one with nothing in it that ends a line. -/
def Rewritten (l l' : Text) : Prop :=
  l' = l ∨ ∃ body, l' = body ++ ['\n'] ∧ '\n' ∉ body ∧ ('\r' ∈ body → '\r' ∈ l)

theorem cr_not_mem_rewritten {lines lines' : List Text} (h : List.Forall₂ Rewritten lines lines')
    (hcr : ∀ l ∈ lines, '\r' ∉ l) : ∀ l' ∈ lines', '\r' ∉ l' := by
  induction h with
  | nil => exact hcr
  | cons hl _ ih =>
    obtain ⟨hold, hrest⟩ := List.forall_mem_cons.mp hcr
    refine List.forall_mem_cons.mpr ⟨?_, ih hrest⟩
    rcases hl with rfl | ⟨body, rfl, -, hbody⟩
    · exact hold
    · exact List.not_mem_append (fun h => hold (hbody h)) (by decide)

theorem rewritten_cleanupLine {l : Text} (hnl : '\n' ∉ l.dropLast) :
    Rewritten l (cleanupLine l) := by
  unfold cleanupLine
  dsimp only
  have hsub := (List.takeWhile_prefix (l := l.dropLast) (· ≠ '|')).subset
  split
  next => exact .inl rfl
  next =>
    split
    next =>
      exact .inr ⟨_, rfl, fun h => hnl (hsub h), fun h => List.dropLast_subset l (hsub h)⟩
    next => exact .inl rfl

theorem cleanupLine_cleanupLine (l : Text) : cleanupLine (cleanupLine l) = cleanupLine l := by
  by_cases hkept : cleanupLine l = l
  · exact congrArg cleanupLine hkept
  · have hnew : cleanupLine l = l.dropLast.takeWhile (· ≠ '|') ++ ['\n'] := by
      unfold cleanupLine at hkept ⊢
      dsimp only at hkept ⊢
      split at hkept
      next => exact absurd rfl hkept
      next hcomment =>
        split at hkept
        next hbar => rw [if_neg hcomment, if_pos hbar]
        next => exact absurd rfl hkept
    rw [hnew]
    unfold cleanupLine
    dsimp only
    rw [List.dropLast_concat, if_neg (bar_not_mem_path l.dropLast), ite_self]

theorem cleanup_cleanup (lines : List Text) : cleanup (cleanup lines) = cleanup lines := by
  rw [cleanup, cleanup, List.map_map]
  exact List.map_congr_left fun l _ => cleanupLine_cleanupLine l

section
variable {read : Text → Option Bytes} {sha1 : Bytes → Bytes} {needSHA1 needSHA1' : Option Bool}
  {universal : Bool}

theorem rewritten_updateLine {l l' : Text} (hnl : '\n' ∉ l.dropLast)
    (h : updateLine read sha1 needSHA1 l = some (needSHA1', l')) : Rewritten l l' := by
  rcases updateLine_cases h with rfl | ⟨-, -, -, -, hnew⟩
  · exact .inl rfl
  · obtain ⟨digest, rfl, -⟩ := hashLine_eq hnew
    have hsub := (List.takeWhile_prefix (l := l.dropLast) (· ≠ '|')).subset
    have hhash : ∀ c, c = '\n' ∨ c = '\r' → c ∉ '|' :: hexdigest digest := by
      rintro c (rfl | rfl) <;>
        exact List.not_mem_cons_of_ne_of_not_mem (by decide) (not_mem_hexdigest (by decide) digest)
    refine .inr ⟨_, rfl, ?_, ?_⟩
    · exact List.not_mem_append (fun h => hnl (hsub h)) (hhash _ (.inl rfl))
    · intro hmem
      rcases List.mem_append.mp hmem with hpath | hdigest
      · exact List.dropLast_subset l (hsub hpath)
      · exact absurd hdigest (hhash _ (.inr rfl))

/-- `update` makes each line of the old one. -/
theorem updateLoop_lines {lines lines' : List Text}
    (h : updateLoop read sha1 needSHA1 lines = some lines') :
    List.Forall₂ (fun l l' => ∃ need need', updateLine read sha1 need l = some (need', l'))
      lines lines' := by
  induction lines generalizing needSHA1 lines' with
  | nil =>
    obtain rfl := Option.some.inj h
    exact .nil
  | cons l lines ih =>
    obtain ⟨⟨need', l'⟩, hl, h⟩ := Option.bind_eq_some_iff.mp h
    obtain ⟨rest', hrest, h⟩ := Option.bind_eq_some_iff.mp h
    obtain rfl := Option.some.inj h
    exact .cons ⟨needSHA1, need', hl⟩ (ih hrest)

theorem updateLoop_again {lines lines' : List Text}
    (h : updateLoop read sha1 needSHA1 lines = some lines') :
    updateLoop read sha1 needSHA1 lines' = some lines' := by
  induction lines generalizing needSHA1 lines' with
  | nil =>
    obtain rfl := Option.some.inj h
    exact h
  | cons l lines ih =>
    obtain ⟨⟨need', l'⟩, hl, h⟩ := Option.bind_eq_some_iff.mp h
    obtain ⟨rest', hrest, h⟩ := Option.bind_eq_some_iff.mp h
    obtain rfl := Option.some.inj h
    rw [updateLoop, updateLine_again hl, Option.bind_eq_bind, Option.bind_some]
    dsimp only
    rw [ih hrest]
    rfl

theorem not_mem_dropLast_readLines {file l : Text} (hl : l ∈ readLines universal file) :
    '\n' ∉ l.dropLast :=
  (areLines_linesOf '\n' _).not_mem_dropLast l hl

/-- What is written is read back. -/
theorem readLines_flatten {file : Text} {lines' : List Text}
    (h : List.Forall₂ Rewritten (readLines universal file) lines') :
    readLines universal lines'.flatten = lines' := by
  have hlines : AreLines '\n' lines' := by
    refine (areLines_linesOf '\n' _).of_forall₂ (h.imp fun l l' hl => ?_)
    exact hl.imp_right fun ⟨body, heq, hnl, _⟩ => ⟨body, hnl, heq⟩
  unfold readLines
  split
  next huniv =>
    subst huniv
    have hcr : ∀ l ∈ readLines true file, '\r' ∉ l := by
      intro l hl hmem
      refine cr_not_mem_universalNewlines file ?_
      rw [← flatten_linesOf '\n' (universalNewlines file)]
      exact List.mem_flatten_of_mem hl hmem
    have hcr' : '\r' ∉ lines'.flatten := by
      intro hmem
      obtain ⟨l', hl', hmem⟩ := List.mem_flatten.mp hmem
      exact cr_not_mem_rewritten h hcr l' hl' hmem
    rw [universalNewlines_eq hcr', linesOf_flatten hlines]
  next => exact linesOf_flatten hlines

theorem forall₂_rewritten_update {file : Text} {lines' : List Text}
    (h : update read sha1 (readLines universal file) = some lines') :
    List.Forall₂ Rewritten (readLines universal file) lines' := by
  have hnl := fun l (hl : l ∈ readLines universal file) => not_mem_dropLast_readLines hl
  have hlines := updateLoop_lines h
  generalize readLines universal file = lines at hnl hlines
  clear h
  induction hlines with
  | nil => exact .nil
  | cons hl _ ih =>
    obtain ⟨hfirst, hrest⟩ := List.forall_mem_cons.mp hnl
    obtain ⟨need, need', hl⟩ := hl
    exact .cons (rewritten_updateLine hfirst hl) (ih hrest)

theorem forall₂_rewritten_cleanup (file : Text) :
    List.Forall₂ Rewritten (readLines universal file) (cleanup (readLines universal file)) := by
  rw [cleanup, List.forall₂_map_right_iff, List.forall₂_same]
  exact fun l hl => rewritten_cleanupLine (not_mem_dropLast_readLines hl)

/-- **Running the script twice is running it once**, with and without `-c`, as
long as the files are the same. -/
theorem run_twice {argv : List Text} {file file' : Text}
    (h : updateSha1sums read sha1 universal argv file = some file') :
    updateSha1sums read sha1 universal argv file' = some file' := by
  unfold updateSha1sums at h ⊢
  dsimp only at h ⊢
  split at h
  next hargv =>
    obtain rfl := Option.some.inj h
    rw [if_pos hargv, readLines_flatten (forall₂_rewritten_cleanup file), cleanup_cleanup]
  next hargv =>
    obtain ⟨lines', hlines, rfl⟩ := Option.map_eq_some_iff.mp h
    rw [if_neg hargv, readLines_flatten (forall₂_rewritten_update hlines)]
    exact congrArg (Option.map List.flatten) (updateLoop_again hlines)

/-- With and without a hash, and with a carriage return at the end of a line. -/
theorem run_twice_blobs :
    updateSha1sums (fun _ => some []) (fun _ => [0xda, 0x39]) true ["update-sha1sums.py".toList]
        "# A - from x\n-a.so:b.so|00\n\n# B\nc.xml\r\n".toList =
      some "# A - from x\n-a.so:b.so|da39\n\n# B\nc.xml\n".toList ∧
    updateSha1sums (fun _ => some []) (fun _ => [0xda, 0x39]) true ["update-sha1sums.py".toList]
        "# A - from x\n-a.so:b.so|da39\n\n# B\nc.xml\n".toList =
      some "# A - from x\n-a.so:b.so|da39\n\n# B\nc.xml\n".toList := by
  have hrun : updateSha1sums (fun _ => some []) (fun _ => [0xda, 0x39]) true
      ["update-sha1sums.py".toList] "# A - from x\n-a.so:b.so|00\n\n# B\nc.xml\r\n".toList =
        some "# A - from x\n-a.so:b.so|da39\n\n# B\nc.xml\n".toList := by decide +kernel
  exact ⟨hrun, run_twice hrun⟩

/-- Where every line is whole, `cleanup` makes the same of the new lines and of the old. -/
theorem cleanup_updateLoop {lines lines' : List Text}
    (hwhole : ∀ l ∈ lines, ∃ body, l = body ++ ['\n'])
    (h : updateLoop read sha1 needSHA1 lines = some lines') : cleanup lines' = cleanup lines := by
  have hlines := updateLoop_lines h
  clear h
  induction hlines with
  | nil => rfl
  | cons hl _ ih =>
    obtain ⟨⟨body, rfl⟩, hrest⟩ := List.forall_mem_cons.mp hwhole
    obtain ⟨need, need', hl⟩ := hl
    exact congrArg₂ List.cons (cleanupLine_update hl) (ih hrest)

theorem readLines_whole {file : Text} (hend : file.getLast? = some '\n') :
    ∀ l ∈ readLines universal file, ∃ body, l = body ++ ['\n'] := by
  refine (areLines_linesOf '\n' _).all_terminated ?_
  rw [flatten_linesOf]
  split
  next => exact getLast?_universalNewlines hend
  next => exact hend

/-- **Hashes are all that the update puts in**: where the last line is whole,
`-c` makes the same of the updated list and of the list before. -/
theorem cleanup_after_update {argv : List Text} {script file file' : Text}
    (hargv : ¬(argv.length = 2 ∧ argv[1]? = some "-c".toList))
    (hend : file.getLast? = some '\n')
    (h : updateSha1sums read sha1 universal argv file = some file') :
    updateSha1sums read sha1 universal [script, "-c".toList] file' =
      updateSha1sums read sha1 universal [script, "-c".toList] file := by
  unfold updateSha1sums at h
  dsimp only at h
  rw [if_neg hargv] at h
  obtain ⟨lines', hlines, rfl⟩ := Option.map_eq_some_iff.mp h
  have hsame := cleanup_updateLoop (readLines_whole hend) hlines
  unfold updateSha1sums
  dsimp only
  have hc : [script, "-c".toList].length = 2 ∧ [script, "-c".toList][1]? = some "-c".toList :=
    ⟨rfl, rfl⟩
  rw [readLines_flatten (forall₂_rewritten_update hlines), if_pos hc, if_pos hc, hsame]

/-- The hash of another file of the same name is put in and dropped again. -/
theorem cleanup_after_update_blobs :
    updateSha1sums (fun _ => some []) (fun _ => [0xda, 0x39]) true
        ["update-sha1sums.py".toList, "-c".toList] "# A - from x\na.so|da39\n".toList =
      updateSha1sums (fun _ => some []) (fun _ => [0xda, 0x39]) true
        ["update-sha1sums.py".toList, "-c".toList] "# A - from x\na.so|00\n".toList := by
  have hrun : updateSha1sums (fun _ => some []) (fun _ => [0xda, 0x39]) true
      ["update-sha1sums.py".toList] "# A - from x\na.so|00\n".toList =
        some "# A - from x\na.so|da39\n".toList := by decide +kernel
  exact cleanup_after_update (by decide) rfl hrun

/-! ## Which lines get a hash -/

/-- The comment that a line stands under. -/
def lastComment (above : List Text) : Option Text :=
  (above.filter fun l => l.dropLast.head? = some '#').getLast?

/-- The file of a name: what stands behind its colon if it has one, or all of it. -/
inductive SourceOf : Text → Text → Prop where
  | behind {before path : Text} (hbefore : ':' ∉ before) (hpath : ':' ∉ path) :
    SourceOf (before ++ ':' :: path) path
  | whole {name : Text} (h : name.count ':' ≠ 1) : SourceOf name name

/-- What stands in front of the old hash, a bar, the hash of the file that is read, and the end of
the line; a `-` in front of the file is no part of its path. -/
def Hashed (read : Text → Option Bytes) (sha1 : Bytes → Bytes) (line l' : Text) : Prop :=
  ∃ name, '|' ∉ name ∧ (line = name ∨ ∃ old, line = name ++ '|' :: old) ∧
    ∃ source path file, SourceOf name source ∧
      (source = '-' :: path ∨ source = path ∧ path ≠ [] ∧ path.head? ≠ some '-') ∧
      read (vendorPath ++ '/' :: path) = some file ∧
      l' = name ++ ['|'] ++ hexdigest (sha1 file) ++ ['\n']

theorem SourceOf.unique {name source source' : Text} (h : SourceOf name source)
    (h' : SourceOf name source') : source = source' := by
  have hone : ∀ {before path : Text}, ':' ∉ before → ':' ∉ path →
      (before ++ ':' :: path).count ':' = 1 := by
    intro before path hbefore hpath
    simp [List.count_eq_zero_of_not_mem hbefore, List.count_eq_zero_of_not_mem hpath]
  cases h with
  | behind hbefore hpath =>
    generalize hname : _ ++ ':' :: source = name at h'
    cases h' with
    | behind hbefore' hpath' =>
      exact ((List.append_cons_inj_of_notMem hbefore hpath).mp hname).2.2
    | whole h => exact absurd (hname ▸ hone hbefore hpath) h
  | whole h =>
    cases h' with
    | behind hbefore' hpath' => exact absurd (hone hbefore' hpath') h
    | whole _ => rfl

/-- With a second colon the name is taken as a whole. -/
theorem sourceOf_filePathOf (name : Text) : SourceOf name (filePathOf name) := by
  by_cases hcolon : ':' ∈ name
  · obtain ⟨before, rest, rfl, hbefore⟩ := List.eq_append_cons_of_mem hcolon
    have hsplit := List.splitOn_append_cons_self_of_not_mem hbefore rest
    by_cases hmore : ':' ∈ rest
    · have hpath : filePathOf (before ++ ':' :: rest) = before ++ ':' :: rest := by
        obtain ⟨middle, last, rfl, hmiddle⟩ := List.eq_append_cons_of_mem hmore
        obtain ⟨x, xs, hlast⟩ := List.exists_cons_of_ne_nil (List.splitOn_ne_nil ':' last)
        rw [filePathOf, hsplit, List.splitOn_append_cons_self_of_not_mem hmiddle, hlast]
      have hpos := List.count_pos_iff.mpr hmore
      rw [hpath]
      refine .whole ?_
      rw [List.count_append, List.count_cons_self]
      omega
    · rw [filePathOf, hsplit, List.splitOn_eq_singleton hmore]
      exact .behind hbefore hmore
  · rw [filePathOf, List.splitOn_eq_singleton hcolon]
    exact .whole (by rw [List.count_eq_zero_of_not_mem hcolon]; decide)

theorem takeWhile_bar_iff {line name : Text} : line.takeWhile (· ≠ '|') = name ↔
    '|' ∉ name ∧ (line = name ∨ ∃ old, line = name ++ '|' :: old) := by
  constructor
  · rintro rfl
    refine ⟨bar_not_mem_path line, ?_⟩
    have hsplit : line.takeWhile (· ≠ '|') ++ line.dropWhile (· ≠ '|') = line :=
      List.takeWhile_append_dropWhile
    cases hdrop : line.dropWhile (· ≠ '|') with
    | nil =>
      rw [hdrop, List.append_nil] at hsplit
      exact .inl hsplit.symm
    | cons c old =>
      have hc := List.head?_dropWhile_not (fun c : Char => decide (c ≠ '|')) line
      rw [hdrop] at hc hsplit
      obtain rfl : c = '|' := by simpa using hc
      exact .inr ⟨old, hsplit.symm⟩
  · rintro ⟨hbar, rfl | ⟨old, rfl⟩⟩
    · rw [List.takeWhile_eq_self_iff]
      intro c hc
      simpa using fun (heq : c = '|') => hbar (heq ▸ hc)
    · rw [List.takeWhile_append_of_pos]
      · simp
      · intro c hc
        simpa using fun (heq : c = '|') => hbar (heq ▸ hc)

theorem path_of_source_iff {source path : Text} :
    (source = '-' :: path ∨ source = path ∧ path ≠ [] ∧ path.head? ≠ some '-') ↔
      ∃ first, source.head? = some first ∧
        (if first = '-' then source.tail else source) = path := by
  constructor
  · rintro (rfl | ⟨rfl, hne, hhead⟩)
    · exact ⟨'-', rfl, if_pos rfl⟩
    · obtain ⟨c, rest, rfl⟩ := List.exists_cons_of_ne_nil hne
      exact ⟨c, rfl, if_neg (by simpa using hhead)⟩
  · rintro ⟨first, hfirst, hpath⟩
    obtain ⟨rest, rfl⟩ := List.head?_eq_some_iff.mp hfirst
    split at hpath
    next hdash =>
      obtain rfl : rest = path := hpath
      exact .inl (congrArg (· :: rest) hdash)
    next hdash =>
      obtain rfl := hpath
      exact .inr ⟨rfl, List.cons_ne_nil _ _, by simpa using hdash⟩

theorem hashLine_eq_some_iff {line l' : Text} :
    hashLine read sha1 line = some l' ↔ Hashed read sha1 line l' := by
  unfold hashLine Hashed
  dsimp only
  constructor
  · intro h
    obtain ⟨first, hfirst, h⟩ := Option.bind_eq_some_iff.mp h
    obtain ⟨file, hread, h⟩ := Option.bind_eq_some_iff.mp h
    obtain ⟨hbar, hline⟩ := takeWhile_bar_iff.mp (rfl : line.takeWhile (· ≠ '|') = _)
    refine ⟨_, hbar, hline, _, _, file, sourceOf_filePathOf _,
      path_of_source_iff.mpr ⟨first, hfirst, rfl⟩, hread, ?_⟩
    rw [← Option.some.inj h]
    simp
  · rintro ⟨name, hbar, hline, source, path, file, hsource, hdash, hread, rfl⟩
    obtain ⟨first, hfirst, hpath⟩ := path_of_source_iff.mp hdash
    rw [takeWhile_bar_iff.mpr ⟨hbar, hline⟩, (sourceOf_filePathOf name).unique hsource, hfirst]
    simp only [Option.bind_eq_bind, Option.bind_some, hpath, hread, List.append_assoc,
      List.cons_append, List.nil_append]

/-- What becomes of a line under others. -/
def NewLine (read : Text → Option Bytes) (sha1 : Bytes → Bytes) (above : List Text) (l l' : Text) :
    Prop :=
  if l.dropLast = [] ∨ l.dropLast.head? = some '#' then l' = l
  else ∃ comment, lastComment above = some comment ∧
    if fromMark <:+: comment.dropLast then Hashed read sha1 l.dropLast l'
    else l' = l

/-- What `needSHA1` holds below some lines. -/
def needOf (above : List Text) : Option Bool :=
  (lastComment above).map fun comment => decide (fromMark <:+: comment.dropLast)

theorem needOf_concat (above : List Text) (l : Text) :
    needOf (above ++ [l]) = if l.dropLast.head? = some '#' then
      some (decide (fromMark <:+: l.dropLast)) else needOf above := by
  unfold needOf lastComment
  rw [List.filter_append, List.filter_singleton]
  split
  next h => simp [h]
  next h => simp [h]

theorem updateLine_iff {above : List Text} {l l' : Text} :
    updateLine read sha1 (needOf above) l = some (needSHA1', l') ↔
      needSHA1' = needOf (above ++ [l]) ∧ NewLine read sha1 above l l' := by
  rw [needOf_concat]
  unfold updateLine NewLine
  dsimp only
  by_cases hempty : l.dropLast = []
  · have hhead : l.dropLast.head? ≠ some '#' := by simp [hempty]
    rw [if_pos hempty, if_neg hhead, if_pos (Or.inl hempty), Option.some_inj, Prod.mk_inj, eq_comm,
      eq_comm (a := l)]
  · by_cases hcomment : l.dropLast.head? = some '#'
    · rw [if_neg hempty, if_pos hcomment, if_pos hcomment, if_pos (Or.inr hcomment),
        Option.some_inj, Prod.mk_inj, eq_comm, eq_comm (a := l)]
    · rw [if_neg hempty, if_neg hcomment, if_neg hcomment,
        if_neg (not_or.mpr ⟨hempty, hcomment⟩)]
      unfold needOf
      cases lastComment above with
      | none => simp
      | some comment =>
        rw [Option.map_some, Option.bind_some]
        simp only [Option.some_inj, exists_eq_left', decide_eq_true_eq]
        split
        next =>
          rw [← hashLine_eq_some_iff]
          cases hashLine read sha1 l.dropLast <;> simp [eq_comm]
        next => simp [eq_comm]

theorem updateLoop_iff (above lines lines' : List Text) :
    updateLoop read sha1 (needOf above) lines = some lines' ↔
      lines'.length = lines.length ∧ ∀ i l, lines[i]? = some l →
        ∃ l', lines'[i]? = some l' ∧ NewLine read sha1 (above ++ lines.take i) l l' := by
  induction lines generalizing above lines' with
  | nil => cases lines' <;> simp [updateLoop]
  | cons l lines ih =>
    constructor
    · intro h
      obtain ⟨⟨need', l'⟩, hl, h⟩ := Option.bind_eq_some_iff.mp h
      obtain ⟨rest', hrest, h⟩ := Option.bind_eq_some_iff.mp h
      obtain rfl := Option.some.inj h
      obtain ⟨rfl, hnew⟩ := updateLine_iff.mp hl
      obtain ⟨hlen, hrest⟩ := (ih _ _).mp hrest
      refine ⟨congrArg (· + 1) hlen, fun i => ?_⟩
      cases i with
      | zero =>
        intro l₀ hl₀
        obtain rfl := Option.some.inj hl₀
        exact ⟨l', rfl, by simpa using hnew⟩
      | succ i => simpa using hrest i
    · rintro ⟨hlen, h⟩
      obtain ⟨l', rest', rfl⟩ := List.exists_cons_of_length_eq_add_one hlen
      obtain ⟨l₀, hl₀, hnew⟩ := h 0 l rfl
      obtain rfl := Option.some.inj hl₀
      have hl := updateLine_iff.mpr ⟨rfl, by simpa using hnew⟩
      have hrest := (ih (above ++ [l]) rest').mpr
        ⟨Nat.succ.inj hlen, fun i => by simpa using h (i + 1)⟩
      rw [updateLoop, hl, Option.bind_eq_bind, Option.bind_some]
      dsimp only
      rw [hrest]
      rfl

/-- **Every line comes out by the comment it stands under**: below one with
` - from` it gets the hash of its file, below another it is kept. The update
ends with an exception where a line stands under none, or where its file
cannot be read. -/
theorem update_iff (lines lines' : List Text) :
    update read sha1 lines = some lines' ↔
      lines'.length = lines.length ∧ ∀ i l, lines[i]? = some l →
        ∃ l', lines'[i]? = some l' ∧ NewLine read sha1 (lines.take i) l l' :=
  updateLoop_iff [] lines lines'

end

end DeviceHal.Blobs.Sha1Sums
