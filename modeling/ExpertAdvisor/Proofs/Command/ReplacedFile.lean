import ExpertAdvisor.Command.Run

namespace ExpertAdvisor.Command

/-!
# A replaced file

When the content of one file is replaced, every path leads where it led before.
So other files read the same, and a file can be written exactly where it could
be written before.  Runs that start alike then have the same outcome.
-/

namespace Found

/-- What was found, with new content where it is the file at a location. -/
def withContent
    (location : Location)
    (content : List UInt8) :
    Found → Found
  | .file place old => .file place (if place = location then content else old)
  | found => found

end Found

namespace Workspace

variable {workspace : Workspace} {location : Location} {bytes replacement : List UInt8}

/-- A path leads to the file at a location. -/
def LeadsTo
    (workspace : Workspace)
    (path : Path)
    (location : Location) : Prop :=
  ∃ content, workspace.find path = .ok (.file location content)

/-- A directory stays one, whatever file is put somewhere. -/
theorem hasDirectory_put
    {directory : Location}
    (isDirectory : workspace.hasDirectory directory = true) :
    (workspace.put location replacement).hasDirectory directory = true := by
  simp only [hasDirectory, Bool.or_eq_true, List.any_eq_true] at isDirectory ⊢
  refine isDirectory.imp_right ?_
  rintro ⟨holder, isHolder, holds⟩
  by_cases here : holder.1 = location
  · exact ⟨(location, replacement), List.mem_cons_self, by rwa [← here]⟩
  · refine ⟨holder, List.mem_cons_of_mem _ (List.mem_filter.mpr ⟨isHolder, ?_⟩), holds⟩
    exact bne_iff_ne.mpr here

/-- Replacing a file's content leaves the directories as they are. -/
theorem hasDirectory_replaced
    (known : workspace.content? location = some bytes)
    (directory : Location) :
    (workspace.put location replacement).hasDirectory directory =
      workspace.hasDirectory directory := by
  obtain ⟨entry, found, _⟩ := Option.map_eq_some_iff.mp known
  have isPlace : entry.1 = location := by simpa using List.find?_some found
  refine Bool.eq_iff_iff.mpr ⟨fun isDirectory => ?_, hasDirectory_put⟩
  simp only [hasDirectory, Bool.or_eq_true, List.any_eq_true] at isDirectory ⊢
  refine isDirectory.imp_right ?_
  rintro ⟨holder, isHolder, holds⟩
  rcases List.mem_cons.mp isHolder with rfl | kept
  · exact ⟨entry, List.mem_of_find?_eq_some found, by rwa [isPlace]⟩
  · exact ⟨holder, (List.mem_filter.mp kept).1, holds⟩

/-- Replacing a file changes its own content alone. -/
theorem content?_replaced
    (known : workspace.content? location = some bytes)
    (place : Location) :
    (workspace.put location replacement).content? place =
      (workspace.content? place).map fun old => if place = location then replacement else old := by
  by_cases here : place = location
  · subst here
    rw [content?_put_self, known, Option.map_some, if_pos rfl]
  · rw [content?_put_of_ne workspace replacement here]
    simp only [here, if_false, Option.map_id']

/-- A path that is followed leads where it led before, to new content at the location alone. -/
theorem follow_replaced
    (known : workspace.content? location = some bytes)
    (directory : Option Location)
    (components : List String) :
    (workspace.put location replacement).follow directory components =
      (workspace.follow directory components).map (Found.withContent location replacement) := by
  fun_induction follow workspace directory components with
  | case1 => rfl
  | case2 directory rest inductionHypothesis =>
      rw [follow]
      exact inductionHypothesis
  | case3 name rest notParent => rw [follow, Except.map]; exact notParent
  | case4 directory name rest notParent place content isFile isLast =>
      rw [follow, content?_replaced known, isFile, Option.map_some, isLast]
      · rfl
      · exact notParent
  | case5 directory name rest notParent place content isFile notLast =>
      rw [follow, content?_replaced known, isFile, Option.map_some]
      · exact if_neg notLast
      · exact notParent
  | case6 directory name rest notParent place noFile isDirectory inductionHypothesis =>
      rw [follow, content?_replaced known, noFile, hasDirectory_replaced known, isDirectory]
      · exact inductionHypothesis
      · exact notParent
  | case7 directory name rest notParent place noFile noDirectory isLast =>
      rw [follow, content?_replaced known, noFile, hasDirectory_replaced known, isLast]
      · exact if_neg noDirectory
      · exact notParent
  | case8 directory name rest notParent place noFile noDirectory notLast =>
      rw [follow, content?_replaced known, noFile, hasDirectory_replaced known]
      · exact (if_neg noDirectory).trans (if_neg notLast)
      · exact notParent

/--
What is found at a path is found as before, with the new content in the file
that was replaced.
-/
theorem find_replaced
    (known : workspace.content? location = some bytes)
    (path : Path) :
    (workspace.put location replacement).find path =
      (workspace.find path).map (Found.withContent location replacement) :=
  follow_replaced known _ _

/-- A path that leads elsewhere leads to the same as before. -/
theorem find_replaced_of_elsewhere
    {path : Path}
    (known : workspace.content? location = some bytes)
    (elsewhere : ¬ workspace.LeadsTo path location) :
    (workspace.put location replacement).find path = workspace.find path := by
  rw [find_replaced known]
  cases found : workspace.find path with
  | error fault => rfl
  | ok target =>
      cases target with
      | file place content =>
          have notHere : place ≠ location := by
            rintro rfl
            exact elsewhere ⟨content, found⟩
          rw [Except.map, Found.withContent, if_neg notHere]
      | directory => rfl
      | vacant place => rfl

/-- What is read elsewhere is read as before. -/
theorem read_replaced_of_elsewhere
    {path : Path}
    (known : workspace.content? location = some bytes)
    (elsewhere : ¬ workspace.LeadsTo path location) :
    (workspace.put location replacement).read path = workspace.read path := by
  rw [read, read, find_replaced_of_elsewhere known elsewhere]

/-- What a path is followed to has the content at its location. -/
theorem content?_of_follow
    {directory : Option Location}
    {components : List String}
    (found : workspace.follow directory components = .ok (.file location bytes)) :
    workspace.content? location = some bytes := by
  fun_induction follow workspace directory components with
  | case2 directory rest inductionHypothesis => exact inductionHypothesis found
  | case4 directory name rest notParent place content isFile isLast =>
      obtain ⟨isPlace, isContent⟩ := Found.file.inj (Except.ok.inj found)
      rw [← isPlace, ← isContent]
      exact isFile
  | case6 directory name rest notParent place noFile isDirectory inductionHypothesis =>
      exact inductionHypothesis found
  | _ => exact nomatch found

/-- What is found at the end of a path is a file of the workspace. -/
theorem content?_of_find
    {path : Path}
    (found : workspace.find path = .ok (.file location bytes)) :
    workspace.content? location = some bytes :=
  content?_of_follow found

/-! Runs in both workspaces. -/

section Runs

variable {settings : Settings} {standardInput : List UInt8} {source : String}
  {words : List String} {invocation : Invocation}

/-- A source elsewhere has the same text. -/
theorem sourceText_replaced
    (known : workspace.content? location = some bytes)
    (elsewhere : source ≠ "-" → ¬ workspace.LeadsTo (Path.ofText source) location) :
    ((workspace.put location replacement).surroundings standardInput).sourceText source =
      (workspace.surroundings standardInput).sourceText source := by
  by_cases isDash : source = "-"
  · subst isDash
    rfl
  · have same : ((workspace.put location replacement).surroundings standardInput).read
        (Path.ofText source) = (workspace.surroundings standardInput).read (Path.ofText source) :=
      read_replaced_of_elsewhere known (elsewhere isDash)
    simp only [Surroundings.sourceText, Surroundings.sourceBytes, same]
    rfl

theorem snippet_replaced
    {path : Path}
    (known : workspace.content? location = some bytes)
    (elsewhere : ¬ workspace.LeadsTo path location) :
    ((workspace.put location replacement).surroundings standardInput).snippet path =
      (workspace.surroundings standardInput).snippet path := by
  have same : ((workspace.put location replacement).surroundings standardInput).read path =
      (workspace.surroundings standardInput).read path :=
    read_replaced_of_elsewhere known elsewhere
  rw [Surroundings.snippet, Surroundings.snippet, same]

/-- A file can be written where it could be written before, and the fault is the same elsewhere. -/
theorem write_replaced
    (known : workspace.content? location = some bytes)
    (path : Path)
    (content : List UInt8) :
    ((workspace.put location replacement).write path content).map (fun _ => ()) =
      (workspace.write path content).map fun _ => () := by
  rw [write, write, find_replaced known]
  cases workspace.find path with
  | error fault => rfl
  | ok target => cases target <;> rfl

/-- The outcome of a run with output to be written depends on whether that can be written. -/
theorem run_of_writing
    {path : Path}
    {code : String}
    {parameterCount : Nat}
    {messages : List String}
    {entries : List Entry}
    (invoked : Invocation.ofWords? words = some invocation)
    (started : start settings (workspace.surroundings standardInput) invocation =
      .writing path code parameterCount messages entries) :
    (workspace.run settings standardInput words).1 =
      (Progress.writing path code parameterCount messages entries).conclude
        ((workspace.write path (Text.encodeText code)).map fun _ => ()) := by
  simp only [run, invoked, started]
  cases workspace.write path (Text.encodeText code) <;> rfl

/-- Runs that start alike have the same outcome. -/
theorem run_replaced
    (known : workspace.content? location = some bytes)
    (invoked : Invocation.ofWords? words = some invocation)
    (sameStart :
      start settings ((workspace.put location replacement).surroundings standardInput) invocation =
        start settings (workspace.surroundings standardInput) invocation) :
    ((workspace.put location replacement).run settings standardInput words).1 =
      (workspace.run settings standardInput words).1 := by
  cases started : start settings (workspace.surroundings standardInput) invocation with
  | finished outcome => simp only [run, invoked, sameStart, started]
  | writing path code parameterCount messages entries =>
      rw [run_of_writing invoked started, run_of_writing invoked (sameStart.trans started),
        write_replaced known]

end Runs

end Workspace

end ExpertAdvisor.Command
