import FluxComposer.CommandLine.FileTree
/-
Commands that write. Only one command writes a file, and it makes the
directories above it first. So a tree only grows until the file is put
(`Grown`, `wrote_write`): what a place holds it goes on holding, and what
is new is a directory.

A path that leads through directories leads through the same ones
wherever they are still there (`Paves`, `target_of_paves`). That is what
makes a written file the one that its path reads (`read_write`) and what
leaves all other paths their files (`read_write_other`). Commands are then
gone through step by step: none of them takes a directory away, whatever
it is answered (`paves_on`), and a settings file that was written is there
to be read (`read_config`).
-/
namespace FluxComposer.CommandLine

namespace FileTree

variable {t t' t'' : FileTree} {p : FilePath} {content : String}
  {place : Place}

-- ============================================================== places

/-- What is found among entries of which those of a place were
replaced. -/
theorem find?_replace (entries : List (Place × Entry)) (place q : Place)
    (entry : Entry) :
    ((entries.map fun e => if e.1 = place then (place, entry) else e).find?
        (·.1 = q)).map (·.2)
      = if q = place then (entries.find? (·.1 = place)).map fun _ => entry
        else (entries.find? (·.1 = q)).map (·.2) := by
  induction entries with
  | nil => split <;> rfl
  | cons e entries ih =>
      rw [List.map_cons, List.find?_cons, List.find?_cons, List.find?_cons]
      by_cases hplace : e.1 = place <;> by_cases hq : q = place
      · simp [hplace, hq]
      · have hne : place ≠ q := Ne.symm hq
        simpa [hplace, hq, hne] using ih
      · have hne : e.1 ≠ q := hq ▸ hplace
        simpa [hplace, hne, hq] using ih
      · by_cases he : e.1 = q
        · simp [hq, he]
        · simpa [hplace, hq, he] using ih

/-- An entry is put at its place and nowhere else. The root is no place to
put anything at. -/
theorem find?_put (inner : place ≠ []) (entry : Entry) (q : Place) :
    (t.put place entry).find? q
      = if q = place then some entry else t.find? q := by
  unfold find?
  -- the root is a directory whatever the entries are
  by_cases hroot : q = []
  · have hne : ([] : Place) ≠ place := Ne.symm inner
    simp [hroot, hne]
  have hinner : q.isEmpty = false := by simpa using hroot
  simp only [hinner, Bool.false_eq_true, if_false]
  -- an entry takes the place of one that is there, or is added behind all
  -- others
  unfold put
  split
  case isTrue hany =>
    rw [find?_replace]
    split
    · obtain ⟨e, he⟩ : ∃ e, t.entries.find? (·.1 = place) = some e := by
        rw [← Option.isSome_iff_exists, List.find?_isSome]
        simpa using hany
      rw [he, Option.map_some]
    · rfl
  case isFalse hnone =>
    rw [List.find?_append, Option.map_or]
    split
    case isTrue hq =>
      have hmissing : t.entries.find? (·.1 = q) = none := by
        rw [List.find?_eq_none]
        intro e he heq
        exact hnone (List.any_eq_true.2 ⟨e, he, by simpa [hq] using heq⟩)
      rw [hmissing, hq]
      simp
    case isFalse hq =>
      have hother : [(place, entry)].find? (·.1 = q) = none := by
        simpa using Ne.symm hq
      rw [hother, Option.map_none, Option.or_none]

theorem workingDirectory_put (t : FileTree) (place : Place)
    (entry : Entry) :
    (t.put place entry).workingDirectory = t.workingDirectory := by
  unfold put
  split <;> rfl

-- =============================================================== paths

/-- The directories of a tree are directories of another one. -/
structure Paves (t t' : FileTree) : Prop where
  workingDirectory : t'.workingDirectory = t.workingDirectory
  directories : ∀ place, t.find? place = some .directory →
    t'.find? place = some .directory

theorem Paves.refl (t : FileTree) : Paves t t := ⟨rfl, fun _ h => h⟩

theorem Paves.trans (h : Paves t t') (h' : Paves t' t'') : Paves t t'' where
  workingDirectory := h'.workingDirectory.trans h.workingDirectory
  directories place hplace := h'.directories place (h.directories place hplace)

/-- The root is a directory, so a place where none is lies in the tree. -/
theorem ne_nil_of_free (free : t.find? place ≠ some .directory) :
    place ≠ [] := by
  intro heq
  subst heq
  exact free rfl

/-- A file that is put where no directory is takes none away. -/
theorem paves_put_file (free : t.find? place ≠ some .directory)
    (content : String) : Paves t (t.put place (.file content)) := by
  have hinner := ne_nil_of_free free
  refine ⟨workingDirectory_put .., fun q hq => ?_⟩
  rw [find?_put hinner]
  split
  case isTrue heq => exact absurd (heq ▸ hq) free
  case isFalse => exact hq

/-- A name is followed to where the point, the two points or a directory
of that name lead. -/
theorem enter_eq_ok {name : String} {next : Place} :
    t.enter place name = .ok next ↔
      name = "." ∧ next = place
        ∨ name = ".." ∧ next = place.dropLast
        ∨ (name ≠ "." ∧ name ≠ ".."
            ∧ name.utf8ByteSize ≤ FilePath.nameLimit)
          ∧ t.find? (place ++ [name]) = some .directory
          ∧ next = place ++ [name] := by
  unfold enter
  by_cases hhere : name = "."
  · simp [hhere, eq_comm]
  by_cases hup : name = ".."
  · simp [hup, eq_comm]
  by_cases hlong : name.utf8ByteSize > FilePath.nameLimit
  · simp [hhere, hup, hlong, Nat.not_le.2 hlong]
  simp only [hhere, hup, hlong, if_false, false_and, false_or]
  split
  case h_1 hfound => simp [hfound, hhere, hup, Nat.not_lt.1 hlong, eq_comm]
  case h_2 hfound => simp [hfound]
  case h_3 hmissing => simp [hmissing]

/-- A name is followed as before where the directories are still there. -/
theorem enter_of_paves (paves : Paves t t') {name : String} {next : Place}
    (h : t.enter place name = .ok next) :
    t'.enter place name = .ok next := by
  rw [enter_eq_ok] at h ⊢
  refine h.imp_right (Or.imp_right ?_)
  exact And.imp_right (And.imp_left (paves.directories _))

/-- Names are followed from directory to directory, and the directories
are still there. -/
theorem enterAll_of_paves (paves : Paves t t') {names : List String}
    {next : Place}
    (h : names.foldlM t.enter place = .ok next) :
    names.foldlM t'.enter place = .ok next := by
  induction names generalizing place with
  | nil => exact h
  | cons name names ih =>
      rw [List.foldlM_cons] at h ⊢
      cases hname : t.enter place name with
      | error e =>
          rw [hname] at h
          cases h
      | ok next =>
          rw [hname] at h
          rw [enter_of_paves paves hname]
          exact ih h

/-- A path that leads through directories leads through the same ones
where they are still there. -/
theorem walk_of_paves (paves : Paves t t') {names : List String}
    (h : t.walk p names = .ok place) : t'.walk p names = .ok place := by
  unfold walk at h ⊢
  split at h
  case isTrue => cases h
  case isFalse hshort =>
    rw [if_neg hshort, paves.workingDirectory]
    exact enterAll_of_paves paves h

/-- A path leads to the same place where the directories above it are still
there. -/
theorem target_of_paves (paves : Paves t t') (h : t.target p = .ok place) :
    t'.target p = .ok place := by
  unfold target at h ⊢
  cases hwalk : t.walk p p.names.dropLast with
  | error e =>
      rw [hwalk] at h
      cases h
  | ok above =>
      rw [hwalk] at h
      rw [walk_of_paves paves hwalk]
      cases hlast : p.names.getLast? with
      | none =>
          rw [hlast] at h
          exact h
      | some name =>
          rw [hlast] at h
          change (if name = "." ∨ name = ".." then _ else _) = _ at h
          show (if name = "." ∨ name = ".." then _ else _) = _
          split at h
          case isTrue hpoint =>
            rw [if_pos hpoint]
            exact enter_of_paves paves h
          case isFalse hname =>
            rw [if_neg hname]
            exact h

-- ============================================================= growing

/-- A tree in which directories were made: what a place held it holds, and
what is new is a directory. -/
structure Grown (t t' : FileTree) : Prop where
  workingDirectory : t'.workingDirectory = t.workingDirectory
  kept : ∀ place entry, t.find? place = some entry →
    t'.find? place = some entry
  added : ∀ place entry, t'.find? place = some entry →
    t.find? place = some entry ∨ entry = .directory

theorem Grown.refl (t : FileTree) : Grown t t :=
  ⟨rfl, fun _ _ h => h, fun _ _ => .inl⟩

theorem Grown.trans (h : Grown t t') (h' : Grown t' t'') : Grown t t'' where
  workingDirectory := h'.workingDirectory.trans h.workingDirectory
  kept place entry hfound := h'.kept place entry (h.kept place entry hfound)
  added place entry hfound := by
    rcases h'.added place entry hfound with hbefore | hmade
    · exact h.added place entry hbefore
    · exact .inr hmade

theorem Grown.paves (h : Grown t t') : Paves t t' :=
  ⟨h.workingDirectory, fun place => h.kept place .directory⟩

/-- The files of a grown tree are those that it had. -/
theorem Grown.find?_file_iff (h : Grown t t') {text : String} :
    t'.find? place = some (.file text) ↔ t.find? place = some (.file text) :=
  ⟨fun hfile => (h.added place _ hfile).resolve_right nofun,
    h.kept place _⟩

/-- Making a directory adds one where nothing is. -/
theorem grown_makeDirectory (h : t.makeDirectory p = .ok t') :
    Grown t t' := by
  unfold makeDirectory at h
  cases htarget : t.target p with
  | error e =>
      rw [htarget] at h
      cases h
  | ok place =>
      rw [htarget] at h
      change (if (t.find? place).isSome then _ else _) = _ at h
      -- what is there already is not made
      split at h
      · cases h
      case isFalse hfree =>
        cases h
        have hnone : t.find? place = none := by simpa using hfree
        have hfree' : t.find? place ≠ some .directory := by
          rw [hnone]
          exact nofun
        have hinner := ne_nil_of_free hfree'
        refine ⟨workingDirectory_put .., fun q entry hq => ?_,
          fun q entry hq => ?_⟩
        · rw [find?_put hinner]
          split
          case isTrue heq =>
            rw [heq, hnone] at hq
            cases hq
          case isFalse => exact hq
        · rw [find?_put hinner] at hq
          split at hq
          · exact .inr (Option.some.inj hq).symm
          · exact .inl hq

/-- A directory that is there already need not be made. -/
theorem grown_directory
    (h : (match t.makeDirectory p with
      | .error .exists => if t.isDirectory p then .ok t else .error .exists
      | made => made : Except FileError FileTree) = .ok t') :
    Grown t t' := by
  split at h
  · split at h
    · cases h
      exact .refl t
    · cases h
  · exact grown_makeDirectory h

/-- Making directories one below the other adds directories and nothing
else. -/
theorem grown_makeDirectories {isAbsolute : Bool} {names : List String}
    (h : t.makeDirectories isAbsolute names = .ok t') : Grown t t' := by
  -- on the names, the last of which is made after those above it
  induction names generalizing t' with
  | nil =>
      cases h
      exact .refl t
  | cons name above ih =>
      simp only [makeDirectories] at h
      split at h
      case h_1 =>
        cases habove : t.makeDirectories isAbsolute above with
        | error e =>
            rw [habove] at h
            cases h
        | ok made =>
            rw [habove] at h
            exact (ih habove).trans (grown_directory h)
      case h_2 => exact grown_directory h

-- ============================================================= writing

/-- What writing a file comes to: directories are made, and then the file
is put where no directory is, or cannot be written. -/
inductive Wrote (t : FileTree) (p : FilePath) (content : String) :
    FileTree × Except FileError Unit → Prop where
  | written {made : FileTree} {place : Place} (grown : Grown t made)
      (closed : p.endsOpen = false) (target : made.target p = .ok place)
      (free : made.find? place ≠ some .directory) :
      Wrote t p content (made.put place (.file content), .ok ())
  | failed {made : FileTree} (grown : Grown t made) (e : FileError) :
      Wrote t p content (made, .error e)

/-- A file is written by putting it where its path leads. -/
theorem writeFile_eq_ok (h : t.writeFile p content = .ok t') :
    p.endsOpen = false ∧ ∃ place, t.target p = .ok place
      ∧ t.find? place ≠ some .directory
      ∧ t' = t.put place (.file content) := by
  unfold writeFile at h
  cases htarget : t.target p with
  | error e =>
      rw [htarget] at h
      split at h <;> cases h
  | ok place =>
      have hwalk : (t.walk p p.names.dropLast).isOk = true := by
        unfold target at htarget
        cases hwalk : t.walk p p.names.dropLast with
        | error e =>
            rw [hwalk] at htarget
            cases htarget
        | ok above => rfl
      rw [htarget] at h
      split at h
      case isTrue => cases h
      case isFalse hopen =>
        have hclosed : p.endsOpen = false := by simpa [hwalk] using hopen
        change (if t.find? place = some .directory then _ else _) = _ at h
        split at h
        case isTrue => cases h
        case isFalse hfree =>
          cases h
          exact ⟨hclosed, place, rfl, hfree, rfl⟩

/-- What writing does is one of the two. -/
theorem wrote_write (t : FileTree) (p : FilePath) (content : String) :
    Wrote t p content (t.write p content) := by
  unfold write
  -- by the two steps: the directories above it, and the file
  split
  case h_1 e hmade => exact .failed (.refl t) e
  case h_2 made hmade =>
    have hgrown := grown_makeDirectories hmade
    split
    case h_1 e hwrite => exact .failed hgrown e
    case h_2 written hwrite =>
      obtain ⟨hclosed, place, htarget, hfree, rfl⟩ := writeFile_eq_ok hwrite
      exact .written hgrown hclosed htarget hfree

variable {written : Except FileError Unit}

/-- Writing leaves the directories there are. -/
theorem paves_write (t : FileTree) (p : FilePath) (content : String) :
    Paves t (t.write p content).1 := by
  have hwrote := wrote_write t p content
  generalize t.write p content = result at hwrote
  cases hwrote with
  | written grown _ _ free =>
      exact grown.paves.trans (paves_put_file free content)
  | failed grown => exact grown.paves

/-- A path reads a file where it leads to one. -/
theorem read_eq_ok {text : String} :
    t.read p = .ok text ↔ p.endsOpen = false
      ∧ ∃ place, t.target p = .ok place
        ∧ t.find? place = some (.file text) := by
  unfold read
  cases htarget : t.target p with
  | error e => exact ⟨nofun, nofun⟩
  | ok place =>
      dsimp only [bind, Except.bind]
      cases hfound : t.find? place with
      | none => simp [hfound]
      | some entry =>
          cases entry with
          | directory => simp [hfound]
          | file content =>
              cases p.endsOpen <;> simp [hfound, pure, Except.pure]

/-- A file that was written is read back. -/
theorem read_write (h : t.write p content = (t', .ok ())) :
    t'.read p = .ok content := by
  have hwrote := wrote_write t p content
  rw [h] at hwrote
  cases hwrote with
  | @written made place _ closed target free =>
      have hinner := ne_nil_of_free free
      -- the path still leads there, for a file took the place of no
      -- directory
      refine read_eq_ok.2 ⟨closed, place,
        target_of_paves (paves_put_file free content) target, ?_⟩
      rw [find?_put hinner, if_pos rfl]

/-- Except at the path that is written, no file comes, goes or changes. -/
theorem find?_file_write_iff (h : t.write p content = (t', written))
    (other : t'.target p ≠ .ok place) {text : String} :
    t'.find? place = some (.file text)
      ↔ t.find? place = some (.file text) := by
  have hwrote := wrote_write t p content
  rw [h] at hwrote
  cases hwrote with
  | failed grown => exact grown.find?_file_iff
  | @written made q grown _ target free =>
      have hne : place ≠ q := by
        intro heq
        subst heq
        exact other (target_of_paves (paves_put_file free content) target)
      have hinner := ne_nil_of_free free
      rw [find?_put hinner, if_neg hne]
      exact grown.find?_file_iff

/-- A path that leads elsewhere than the one that is written reads what it
read before. -/
theorem read_write_other {q : FilePath} {text : String}
    (h : t.write p content = (t', written))
    (other : t'.target p ≠ t'.target q) (before : t.read q = .ok text) :
    t'.read q = .ok text := by
  obtain ⟨hclosed, place, htarget, hfile⟩ := read_eq_ok.1 before
  have hpaves : Paves t t' := by
    have hwrite := paves_write t p content
    rwa [h] at hwrite
  have htarget' := target_of_paves hpaves htarget
  rw [htarget'] at other
  exact read_eq_ok.2 ⟨hclosed, place, htarget',
    (find?_file_write_iff h other).2 hfile⟩

end FileTree

-- ============================================================= commands

variable (tree : FileTree) (input : String)
  (answer : Http.Request → Http.Exchange)

/-- Whatever a job does and is answered, all directories stay. -/
theorem paves_on (job : Job) : tree.Paves (job.on tree input answer).2 := by
  -- on the job, for any tree that its earlier steps have left
  induction job generalizing tree with
  | done outcome => exact .refl tree
  | read source next ih => cases source <;> exact ih _ _
  | write path content next ih =>
      exact (tree.paves_write (.ofText path) content).trans (ih _ _)
  | ask request next ih => exact ih _ _

/-- A command that reads its input writes nothing. -/
theorem on_withInput (file : Option String) (next : String → Outcome) :
    ((withInput file next).on tree input answer).2 = tree := by
  cases file with
  | none => rfl
  | some path =>
      simp only [withInput, Job.on]
      cases tree.read (.ofText path) <;> rfl

/-- The report of the status writes nothing. -/
theorem on_statusJob (apiUrl format : String) :
    ((statusJob apiUrl format).on tree input answer).2 = tree := by
  unfold statusJob
  dsimp only
  split <;> rfl

/-- Writing a settings file is all that this command does, and it succeeds
if the file is written. -/
theorem on_configJob (path : String) :
    ∃ written, tree.write (.ofText path) Settings.template
        = (((configJob (some path)).on tree input answer).2, written)
      ∧ (((configJob (some path)).on tree input answer).1.code = 0
        ↔ written = .ok ()) := by
  unfold configJob Job.on
  obtain ⟨left, written⟩ := tree.write (.ofText path) Settings.template
  refine ⟨written, ?_⟩
  cases written with
  | ok => exact ⟨rfl, fun _ => rfl, fun _ => rfl⟩
  | error e => exact ⟨rfl, nofun, nofun⟩

/-- The tree that a command leaves: a settings file is written where one
is asked for, and otherwise nothing is touched. -/
theorem on_job (i : Invocation) :
    (i.job.on tree input answer).2 = match i.command with
      | .config (some path) =>
        (tree.write (.ofText path) Settings.template).1
      | _ => tree := by
  unfold Invocation.job
  cases i.command with
  | translate file | render file => exact on_withInput tree input answer file _
  | build choices => rfl
  | status => exact on_statusJob ..
  | config output =>
      cases output with
      | none => rfl
      | some path =>
          obtain ⟨written, hwrite, -⟩ := on_configJob tree input answer path
          exact (congrArg Prod.fst hwrite).symm

/-- Where a command for a settings file succeeds, its path then reads as
the settings file with all defaults. -/
theorem read_config {i : Invocation} {path : String}
    (asked : i.command = .config (some path))
    (success : (i.job.on tree input answer).1.code = 0) :
    (i.job.on tree input answer).2.read (.ofText path)
      = .ok Settings.template := by
  have hjob : i.job = configJob (some path) := by
    unfold Invocation.job
    rw [asked]
  rw [hjob] at success ⊢
  obtain ⟨written, hwrite, hcode⟩ := on_configJob tree input answer path
  rw [hcode.1 success] at hwrite
  exact FileTree.read_write hwrite

end FluxComposer.CommandLine
