import BuildStamp.Proofs.FileSystem.Resolution

set_option autoImplicit false

/-!
Which entry there is for a path, whether or not a lookup comes to it: where the names lead from
directory to directory, through as many links as there are, with names of any length, and past
every closed directory. A lookup that ends at an entry ends at that one, and one that fails although
there is an entry has been refused by a limit: of lengths, of links or of rights.
-/

namespace BuildStamp.FileSystem

/-- Names lead from one place to another. -/
inductive Leads (files : FileSystem) : Place → List String → Place → Prop
  | here (place : Place) : Leads files place [] place
  | stay {place arrival : Place} {name : String} {rest : List String}
      (inside : files.node? place = some .directory)
      (idle : name = Path.directoryMark ∨ name = ".")
      (further : Leads files place rest arrival) : Leads files place (name :: rest) arrival
  | ascend {place arrival : Place} {rest : List String}
      (inside : files.node? place = some .directory)
      (further : Leads files place.dropLast rest arrival) :
      Leads files place (".." :: rest) arrival
  | enter {place arrival : Place} {name : String} {node : Node} {rest : List String}
      (inside : files.node? place = some .directory) (named : IsName name)
      (there : files.node? (place ++ [name]) = some node)
      (unlinked : ∀ target, node ≠ .link target)
      (further : Leads files (place ++ [name]) rest arrival) :
      Leads files place (name :: rest) arrival
  | follow {place arrival : Place} {name : String} {target : Path} {rest : List String}
      (inside : files.node? place = some .directory) (named : IsName name)
      (there : files.node? (place ++ [name]) = some (.link target))
      (further : Leads files (if target.isAbsolute then [] else place)
        (Purpose.finding.steps target rest) arrival) :
      Leads files place (name :: rest) arrival

/-- There is an entry for a path: its names lead to the place. -/
structure LeadsTo (files : FileSystem) (path : Path) (place : Place) : Prop where
  free : path.text.toList.contains (Char.ofNat 0) = false
  nonempty : path.text ≠ ""
  leads : files.Leads (files.start path) (Purpose.finding.steps path []) place

/-- The errors of a lookup that may have an entry in front of it. -/
def limitErrors : List Errno :=
  [.accessDenied, .nameTooLong, .tooManyLinks]

/-- A limit keeps the lookup of a path from its end. -/
def Refuses (files : FileSystem) (path : Path) : Prop :=
  ∃ errno ∈ limitErrors, files.find path = .error errno

variable {files : FileSystem}

theorem walk_congr {links : Nat} {start other : Place} {names others : List String}
    (same : files.advance start names = files.advance other others) :
    files.walk .finding links start names = files.walk .finding links other others := by
  rw [walk, walk, same]

/-- A walk that a limit has stopped. -/
def Limited (files : FileSystem) (links : Nat) (start : Place) (names : List String) : Prop :=
  ∃ errno ∈ limitErrors, files.walk .finding links start names = .error errno

/-- A walk comes to a place, unless a limit keeps it from doing so. -/
def Comes (files : FileSystem) (links : Nat) (start : Place) (names : List String)
    (arrival : Place) : Prop :=
  files.walk .finding links start names = .ok (.found arrival) ∨ files.Limited links start names

theorem Comes.of_advance {links : Nat} {start other arrival : Place} {names others : List String}
    (comes : files.Comes links other others arrival)
    (same : files.advance start names = files.advance other others) :
    files.Comes links start names arrival := by
  rwa [Comes, Limited, walk_congr same]

theorem limited_of_advance {links : Nat} {start : Place} {names : List String} {errno : Errno}
    (limit : errno ∈ limitErrors) (stops : files.advance start names = .failed errno) :
    files.Limited links start names :=
  ⟨errno, limit, by rw [walk, stops]⟩

theorem limited_of_closed {links : Nat} {place : Place} {name : String} {rest : List String}
    (inside : files.node? place = some .directory) (notMark : name ≠ Path.directoryMark)
    (closed : files.rights.searches place = false) :
    files.Limited links place (name :: rest) := by
  have limit : Errno.accessDenied ∈ limitErrors := by decide
  apply limited_of_advance limit
  simp only [advance, inside, notMark, closed, if_true, if_false]

theorem advance_name {place : Place} {name : String} (rest : List String)
    (inside : files.node? place = some .directory)
    (searchable : files.rights.searches place = true) (named : IsName name) :
    files.advance place (name :: rest) =
      if longestName < Utf8.byteLength name then .failed .nameTooLong
      else
        match files.node? (place ++ [name]) with
        | none => if rest = [] then .absent place name else .failed .noEntry
        | some (.link target) => .follow place target rest
        | some _ => files.advance (place ++ [name]) rest := by
  have isOpen : ¬ files.rights.searches place = false := by simp [searchable]
  rw [advance, inside]
  exact (if_neg named.notMark).trans ((if_neg isOpen).trans ((if_neg named.nonempty).trans
    ((if_neg named.notDot).trans (if_neg named.notDots))))

/-- Where there is an entry, a walk comes to it, unless a limit keeps it from doing so. -/
theorem walk_of_leads {start arrival : Place} {names : List String}
    (leads : files.Leads start names arrival) (links : Nat) :
    files.Comes links start names arrival := by
  induction leads generalizing links with
  | here place => exact .inl (by rw [walk, advance])
  | @stay place arrival name rest inside idle further ih =>
      have goes (searchable : name = Path.directoryMark ∨ files.rights.searches place = true) :
          files.advance place (name :: rest) = files.advance place rest := by
        rcases searchable with mark | searchable
        · simp only [advance, inside, mark, if_true]
        · rcases idle with mark | dot
          · simp only [advance, inside, mark, if_true]
          · simp [advance, inside, dot, searchable, slashedName]
      by_cases mark : name = Path.directoryMark
      · exact (ih links).of_advance (goes (.inl mark))
      · cases searchable : files.rights.searches place with
        | false => exact .inr (limited_of_closed inside mark searchable)
        | true => exact (ih links).of_advance (goes (.inr searchable))
  | @ascend place arrival rest inside further ih =>
      cases searchable : files.rights.searches place with
      | false => exact .inr (limited_of_closed inside (by decide) searchable)
      | true =>
          have goes : files.advance place (".." :: rest) = files.advance place.dropLast rest := by
            simp [advance, inside, Path.directoryMark, searchable, slashedName]
          exact (ih links).of_advance goes
  | @enter place arrival name node rest inside named there unlinked further ih =>
      cases searchable : files.rights.searches place with
      | false => exact .inr (limited_of_closed inside named.notMark searchable)
      | true =>
          have step := advance_name rest inside searchable named
          split at step
          · exact .inr (limited_of_advance (by decide) step)
          · have goes : files.advance place (name :: rest) =
                files.advance (place ++ [name]) rest := by
              rw [step, there]
              cases node with
              | link target => exact absurd rfl (unlinked target)
              | directory => rfl
              | file contents permissions => rfl
            exact (ih links).of_advance goes
  | @follow place arrival name target rest inside named there further ih =>
      cases searchable : files.rights.searches place with
      | false => exact .inr (limited_of_closed inside named.notMark searchable)
      | true =>
          have step := advance_name rest inside searchable named
          split at step
          · exact .inr (limited_of_advance (by decide) step)
          · rw [there] at step
            cases links with
            | zero => exact .inr ⟨.tooManyLinks, by decide, by rw [walk, step]⟩
            | succ links =>
                rw [Comes, Limited, walk, step]
                exact ih links

/-- Names lead to where a walk up to the first link has stopped, or on from the link. -/
def LeadsBy (files : FileSystem) (start : Place) (names : List String) : Stop → Prop
  | .found arrival => files.Leads start names arrival
  | .follow directory target rest =>
    ∀ arrival,
      files.Leads (if target.isAbsolute then [] else directory)
        (Purpose.finding.steps target rest) arrival →
      files.Leads start names arrival
  | .absent _ _ => True
  | .failed _ => True

/-- One step in front of a walk. -/
theorem LeadsBy.step {start next : Place} {names rest : List String} {stop : Stop}
    (further : files.LeadsBy next rest stop)
    (step : ∀ arrival, files.Leads next rest arrival → files.Leads start names arrival) :
    files.LeadsBy start names stop := by
  cases stop with
  | found arrival => exact step arrival further
  | follow directory target behind =>
      intro arrival leads
      exact step arrival (further arrival leads)
  | absent directory name => trivial
  | failed errno => trivial

theorem leadsBy_advance (files : FileSystem) (start : Place) (names : List String) :
    files.LeadsBy start names (files.advance start names) := by
  induction names generalizing start with
  | nil => exact .here start
  | cons name rest ih =>
      obtain ⟨next, hop, goes⟩ := files.hop start name
      rw [goes]
      cases hop with
      | refused errno => trivial
      | stay inside idle => exact (ih start).step fun arrival => .stay inside idle
      | ascend inside dots =>
          subst dots
          exact (ih start.dropLast).step fun arrival => .ascend inside
      | gap absent =>
          by_cases last : rest = []
          · simp [last, LeadsBy]
          · simp [last, LeadsBy]
      | enter inside named there unlinked =>
          exact (ih (start ++ [name])).step fun arrival => .enter inside named there unlinked
      | follow inside named there =>
          exact fun arrival leads => .follow inside named there leads

theorem leads_of_walk (links : Nat) {start arrival : Place} {names : List String}
    (arrives : files.walk .finding links start names = .ok (.found arrival)) :
    files.Leads start names arrival := by
  induction links generalizing start names with
  | zero =>
      have leads := files.leadsBy_advance start names
      rw [walk] at arrives
      generalize files.advance start names = stop at arrives leads
      cases stop with
      | found place =>
          cases arrives
          exact leads
      | absent directory name => cases arrives
      | failed errno => cases arrives
      | follow directory target rest => cases arrives
  | succ links ih =>
      have leads := files.leadsBy_advance start names
      rw [walk] at arrives
      generalize files.advance start names = stop at arrives leads
      cases stop with
      | found place =>
          cases arrives
          exact leads
      | absent directory name => cases arrives
      | failed errno => cases arrives
      | follow directory target rest => exact leads arrival (ih arrives)

/-- Where names lead does not depend on the rights of the user. -/
theorem Leads.congr {other : FileSystem} {start arrival : Place} {names : List String}
    (leads : files.Leads start names arrival)
    (same : ∀ place, other.node? place = files.node? place) :
    other.Leads start names arrival := by
  induction leads with
  | here place => exact .here place
  | stay inside idle further ih => exact .stay ((same _).trans inside) idle ih
  | ascend inside further ih => exact .ascend ((same _).trans inside) ih
  | enter inside named there unlinked further ih =>
      exact .enter ((same _).trans inside) named ((same _).trans there) unlinked ih
  | follow inside named there further ih =>
      exact .follow ((same _).trans inside) named ((same _).trans there) ih

variable {path : Path} {place : Place}

theorem LeadsTo.congr {other : FileSystem} (leads : files.LeadsTo path place)
    (begins : other.workingPlace = files.workingPlace)
    (same : ∀ place, other.node? place = files.node? place) : other.LeadsTo path place := by
  refine ⟨leads.free, leads.nonempty, ?_⟩
  rw [start, begins]
  exact leads.leads.congr same

/-- What a lookup finds is there. -/
theorem leadsTo_of_find (free : path.text.toList.contains (Char.ofNat 0) = false)
    (found : files.find path = .ok place) : files.LeadsTo path place := by
  rw [find, resolve] at found
  by_cases nonempty : path.text = ""
  · rw [if_pos nonempty] at found
    cases found
  · rw [if_neg nonempty] at found
    by_cases long : longestPath < Utf8.byteLength path.text
    · rw [if_pos long] at found
      cases found
    · rw [if_neg long] at found
      refine ⟨free, nonempty, ?_⟩
      generalize arrives : files.walk .finding linkLimit (files.start path)
        (Purpose.finding.steps path []) = outcome at found
      cases outcome with
      | error errno => cases found
      | ok arrival =>
          cases arrival with
          | absent directory name => cases found
          | found other =>
              cases found
              exact leads_of_walk linkLimit arrives

theorem not_refuses_of_find (found : files.find path = .ok place) : ¬ files.Refuses path := by
  rintro ⟨errno, -, refused⟩
  rw [found] at refused
  cases refused

/-- What is there is found, unless the lookup is refused. -/
theorem find_of_leadsTo (leads : files.LeadsTo path place) (allowed : ¬ files.Refuses path) :
    files.find path = .ok place := by
  by_cases long : longestPath < Utf8.byteLength path.text
  · refine absurd ⟨.nameTooLong, by decide, ?_⟩ allowed
    rw [find, resolve, if_neg leads.nonempty, if_pos long]
  · have walks : files.resolve .finding path =
        files.walk .finding linkLimit (files.start path) (Purpose.finding.steps path []) := by
      rw [resolve, if_neg leads.nonempty, if_neg long]
    rcases walk_of_leads leads.leads linkLimit with found | ⟨errno, limit, refused⟩
    · rw [find, walks, found]
    · refine absurd ⟨errno, limit, ?_⟩ allowed
      rw [find, walks, refused]

theorem LeadsTo.unique {other : Place} (one : files.LeadsTo path place)
    (two : files.LeadsTo path other) (allowed : ¬ files.Refuses path) : place = other :=
  Except.ok.inj ((find_of_leadsTo one allowed).symm.trans (find_of_leadsTo two allowed))

/-- A path leads to an entry exactly if there is one and the lookup is not refused. -/
theorem isPresent_iff :
    files.isPresent path = true ↔
      (∃ place, files.LeadsTo path place) ∧ ¬ files.Refuses path := by
  cases free : path.text.toList.contains (Char.ofNat 0) with
  | true =>
      refine iff_of_false ?_ ?_
      · simp only [isPresent, checked, free, if_true, Bool.false_eq_true, not_false_eq_true]
      · rintro ⟨⟨place, leads⟩, -⟩
        rw [leads.free] at free
        cases free
  | false =>
      have present : files.isPresent path = true ↔ ∃ place, files.find path = .ok place := by
        simp only [isPresent, checked, free, Bool.false_eq_true, if_false]
        cases files.find path with
        | ok place => simp
        | error errno => simp
      rw [present]
      constructor
      · rintro ⟨place, found⟩
        exact ⟨⟨place, leadsTo_of_find free found⟩, not_refuses_of_find found⟩
      · rintro ⟨⟨place, leads⟩, allowed⟩
        exact ⟨place, find_of_leadsTo leads allowed⟩

theorem isPresent_eq_false_iff :
    files.isPresent path = false ↔
      (∀ place, ¬ files.LeadsTo path place) ∨ files.Refuses path := by
  rw [← Bool.not_eq_true, isPresent_iff, Classical.not_and_iff_not_or_not, Classical.not_not,
    not_exists]

/-- What is read through a path, by the entry that it leads to. -/
theorem readFile_of_leadsTo (leads : files.LeadsTo path place) (allowed : ¬ files.Refuses path) :
    files.readFile path =
      match files.node? place with
      | some (.file contents permissions) =>
        if files.rights.reads permissions then .ok contents else .error (.system .accessDenied)
      | some .directory => .error (.system .isDirectory)
      | _ => .error (.system .noEntry) := by
  have free : ¬ path.text.toList.contains (Char.ofNat 0) = true :=
    Bool.eq_false_iff.mp leads.free
  rw [readFile, checked.eq_def, if_neg free, find_of_leadsTo leads allowed]
  cases there : files.node? place with
  | none => simp only [there]
  | some node =>
      cases node with
      | directory => simp only [there]
      | link target => simp only [there]
      | file contents permissions =>
          cases readable : files.rights.reads permissions with
          | true => simp only [there, readable, if_true]
          | false => simp only [there, readable, Bool.false_eq_true, if_false]

/-- All that there is stands in a directory, and relative paths begin in one. -/
structure IsTree (files : FileSystem) : Prop where
  above : ∀ place name, files.node? (place ++ [name]) ≠ none →
    files.node? place = some .directory
  workingPlace : files.node? files.workingPlace = some .directory

/-- Names lead to directories and files, never to a link. -/
theorem Leads.directory_or_file (tree : files.IsTree) {start arrival : Place} {names : List String}
    (leads : files.Leads start names arrival)
    (begins : files.node? start = some .directory ∨ files.IsFile start) :
    files.node? arrival = some .directory ∨ files.IsFile arrival := by
  induction leads with
  | here place => exact begins
  | stay inside idle further ih => exact ih (.inl inside)
  | @ascend place arrival rest inside further ih =>
      apply ih
      left
      rcases List.eq_nil_or_concat place with rfl | ⟨above, name, rfl⟩
      · rfl
      · simp only [List.concat_eq_append, List.dropLast_concat] at inside ⊢
        exact tree.above above name (by simp [inside])
  | @enter place arrival name node rest inside named there unlinked further ih =>
      apply ih
      cases node with
      | directory => exact .inl there
      | file contents permissions => exact .inr ⟨contents, permissions, there⟩
      | link target => exact absurd rfl (unlinked target)
  | @follow place arrival name target rest inside named there further ih =>
      apply ih
      left
      split
      · rfl
      · exact inside

theorem LeadsTo.directory_or_file (tree : files.IsTree) (leads : files.LeadsTo path place) :
    files.node? place = some .directory ∨ files.IsFile place := by
  apply leads.leads.directory_or_file tree
  left
  rw [start]
  split
  · rfl
  · exact tree.workingPlace

end BuildStamp.FileSystem
