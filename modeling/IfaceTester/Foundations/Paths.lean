import Mathlib.Data.List.TakeWhile

/-!
# Paths

The last component of a path and the directory before it, as `basename` and `dirname` of
the C library give them, on the characters of the path. Repeated and trailing slashes count
for one. Put together again, the two lead where the path leads (`components_rejoined`).
-/

set_option autoImplicit false

namespace IfaceTester.Paths

/-- A separator. -/
def isSlash (c : Char) : Bool := c == '/'

/-- The path from its end, without trailing slashes. -/
def stripped (path : List Char) : List Char := path.reverse.dropWhile isSlash

/-- `basename`. -/
def basename (path : List Char) : List Char :=
  if path = [] then ['.']
  else if stripped path = [] then ['/']
  else ((stripped path).takeWhile fun c => !isSlash c).reverse

/-- The path from its end, without its last component. -/
def parent (path : List Char) : List Char := (stripped path).dropWhile fun c => !isSlash c

/-- `dirname`. -/
def dirname (path : List Char) : List Char :=
  if path = [] then ['.']
  else if stripped path = [] then ['/']
  else if parent path = [] then ['.']
  else if (parent path).dropWhile isSlash = [] then ['/']
  else ((parent path).dropWhile isSlash).reverse

/-- The names on a path. A dot leads nowhere. -/
def components (path : List Char) : List (List Char) :=
  (path.splitOn '/').filter fun name => !name.isEmpty && name != ['.']

/-- The path starts at the root. -/
def isAbsolute (path : List Char) : Bool := path.head?.any isSlash

section Components

variable {path rest : List Char}

theorem components_append_slash (path rest : List Char) :
    components (path ++ '/' :: rest) = components path ++ components rest := by
  unfold components
  rw [List.splitOn_append_cons_self, List.filter_append]

@[simp] theorem components_nil : components [] = [] := by
  simp [components, List.splitOn_nil]

@[simp] theorem components_dot : components ['.'] = [] := by decide

theorem components_slash_cons (rest : List Char) : components ('/' :: rest) = components rest :=
  components_append_slash [] rest

/-- Slashes lead nowhere. -/
theorem components_slashes {slashes : List Char} (all : ∀ c ∈ slashes, isSlash c = true)
    (rest : List Char) : components (slashes ++ rest) =
      components rest := by
  induction slashes with
  | nil => rfl
  | cons c slashes ih =>
      obtain rfl : c = '/' := by simpa [isSlash] using all c List.mem_cons_self
      rw [List.cons_append, components_slash_cons]
      exact ih fun d member => all d (List.mem_cons_of_mem _ member)

/-- Slashes separate, however many there are. -/
theorem components_append_slashes {slashes : List Char} (all : ∀ c ∈ slashes, isSlash c = true)
    (nonempty : slashes ≠ []) (path rest : List Char) :
    components (path ++ (slashes ++ rest)) = components path ++ components rest := by
  obtain ⟨c, more, rfl⟩ := List.exists_cons_of_ne_nil nonempty
  obtain rfl : c = '/' := by simpa [isSlash] using all c List.mem_cons_self
  rw [List.cons_append, components_append_slash,
    components_slashes fun d member => all d (List.mem_cons_of_mem _ member)]

theorem components_trailing {slashes : List Char} (all : ∀ c ∈ slashes, isSlash c = true)
    (path : List Char) : components (path ++ slashes) = components path := by
  cases slashes with
  | nil => rw [List.append_nil]
  | cons c slashes =>
      have apart := components_append_slashes all (List.cons_ne_nil _ _) path []
      rwa [List.append_nil, components_nil, List.append_nil] at apart

end Components

/-- The parts of a path: a directory, slashes, the last component and trailing slashes. -/
structure Parts (path dir slashes base trailing : List Char) : Prop where
  joined : path = dir ++ (slashes ++ (base ++ trailing))
  slashes : ∀ c ∈ slashes, isSlash c = true
  trailing : ∀ c ∈ trailing, isSlash c = true

theorem all_takeWhile (p : Char → Bool) (path : List Char) :
    ∀ c ∈ (path.takeWhile p).reverse, p c = true := by
  intro c member
  exact List.mem_takeWhile_imp (List.mem_reverse.mp member)

/-- Every path has these parts. -/
theorem parts (path : List Char) :
    Parts path ((parent path).dropWhile isSlash).reverse ((parent path).takeWhile isSlash).reverse
      ((stripped path).takeWhile fun c => !isSlash c).reverse
      (path.reverse.takeWhile isSlash).reverse where
  joined := by
    rw [← List.append_assoc, ← List.reverse_append, List.takeWhile_append_dropWhile,
      ← List.append_assoc, ← List.reverse_append]
    unfold parent
    rw [List.takeWhile_append_dropWhile, ← List.reverse_append]
    unfold stripped
    rw [List.takeWhile_append_dropWhile, List.reverse_reverse]
  slashes := all_takeWhile _ _
  trailing := all_takeWhile _ _

section Rejoined

variable {path : List Char}

theorem isAbsolute_append {dir : List Char} (nonempty : dir ≠ []) (rest : List Char) :
    isAbsolute (dir ++ rest) = isAbsolute dir := by
  obtain ⟨c, more, rfl⟩ := List.exists_cons_of_ne_nil nonempty
  rfl

theorem isAbsolute_of_slashes {slashes : List Char} (all : ∀ c ∈ slashes, isSlash c = true)
    (nonempty : slashes ≠ []) (rest : List Char) : isAbsolute (slashes ++ rest) = true := by
  rw [isAbsolute_append nonempty]
  obtain ⟨c, more, rfl⟩ := List.exists_cons_of_ne_nil nonempty
  exact all c List.mem_cons_self

/-- A directory is followed by a slash. -/
theorem slashes_of_parent (nonempty : parent path ≠ []) :
    ((parent path).takeWhile isSlash).reverse ≠ [] := by
  have first := List.head_dropWhile_not (fun c => !isSlash c) nonempty
  obtain ⟨c, rest, split⟩ := List.exists_cons_of_ne_nil nonempty
  have slash : isSlash c = true := by
    have head : (parent path).head nonempty = c := by simp [split]
    simpa [parent, ← head] using first
  simp [split, slash]

/-- A path with one component starts with no slash. -/
theorem isAbsolute_of_single (nonempty : stripped path ≠ []) (single : parent path = [])
    (rest : List Char) :
    isAbsolute (((stripped path).takeWhile fun c => !isSlash c).reverse ++ rest) = false := by
  have whole := List.takeWhile_append_dropWhile (p := fun c => !isSlash c) (l := stripped path)
  have rest : (stripped path).dropWhile (fun c => !isSlash c) = [] := single
  rw [rest, List.append_nil] at whole
  have base : ((stripped path).takeWhile fun c => !isSlash c).reverse ≠ [] := by
    rw [whole]
    simpa using nonempty
  rw [isAbsolute_append base]
  obtain ⟨c, more, split⟩ := List.exists_cons_of_ne_nil base
  have plain := all_takeWhile (fun c => !isSlash c) (stripped path) c (by simp [split])
  rw [split]
  simpa [isAbsolute] using plain

/-- **A directory and a last component lead where the path leads.** -/
theorem components_rejoined (path : List Char) :
    components (dirname path ++ '/' :: basename path) = components path ∧
      isAbsolute (dirname path ++ '/' :: basename path) = isAbsolute path := by
  obtain ⟨joined, slashes, trailing⟩ := parts path
  by_cases empty : path = []
  · subst empty
    decide
  by_cases root : stripped path = []
  · have dir : dirname path = ['/'] := by simp [dirname, empty, root]
    have base : basename path = ['/'] := by simp [basename, empty, root]
    have only : path = (path.reverse.takeWhile isSlash).reverse := by
      simpa [parent, root] using joined
    rw [dir, base, only]
    have nothing := components_trailing trailing []
    rw [List.nil_append, components_nil] at nothing
    have absolute := isAbsolute_of_slashes trailing (only ▸ empty) []
    rw [List.append_nil] at absolute
    rw [nothing, absolute]
    decide
  have base : basename path = ((stripped path).takeWhile fun c => !isSlash c).reverse := by
    simp [basename, empty, root]
  rw [base]
  by_cases single : parent path = []
  · have dir : dirname path = ['.'] := by simp [dirname, empty, root, single]
    have short : path = ((stripped path).takeWhile fun c => !isSlash c).reverse ++
        (path.reverse.takeWhile isSlash).reverse := by
      simpa [single] using joined
    have names := (congrArg components short).trans (components_trailing trailing _)
    have absolute := (congrArg isAbsolute short).trans (isAbsolute_of_single root single _)
    rw [dir, names, absolute, components_append_slash, components_dot, List.nil_append]
    exact ⟨rfl, rfl⟩
  have apart := slashes_of_parent single
  by_cases top : (parent path).dropWhile isSlash = []
  · have dir : dirname path = ['/'] := by simp [dirname, empty, root, single, top]
    rw [top, List.reverse_nil, List.nil_append] at joined
    have names := ((congrArg components joined).trans (components_slashes slashes _)).trans
      (components_trailing trailing _)
    have absolute := (congrArg isAbsolute joined).trans (isAbsolute_of_slashes slashes apart _)
    rw [dir, names, absolute, components_append_slash]
    exact ⟨by simp [components_slash_cons], rfl⟩
  · have dir : dirname path = ((parent path).dropWhile isSlash).reverse := by
      simp [dirname, empty, root, single, top]
    have nonempty : ((parent path).dropWhile isSlash).reverse ≠ [] := by simpa using top
    have names := (congrArg components joined).trans (components_append_slashes slashes apart _ _)
    have absolute := (congrArg isAbsolute joined).trans (isAbsolute_append nonempty _)
    rw [components_trailing trailing] at names
    rw [dir, names, absolute, components_append_slash, isAbsolute_append nonempty]
    exact ⟨rfl, rfl⟩

end Rejoined

end IfaceTester.Paths
