import Componentry.Proofs.Stylesheet.Restyled
import Componentry.Proofs.Stylesheet.Steps

/-!
# Passes over markup

A pass meets the styled elements in document order. What it has made so far is what the classing of
the styles met so far is, with the same figures; and it restyles each element with the name that is
given to it there, so that its trees are those that are restyled with all the names.
-/

set_option autoImplicit false

namespace Componentry
open Componentry.Text Componentry.Markup Componentry.Stylesheet

namespace Markup.Tree

/-- The styles of the elements in trees, in document order. -/
def stylesIn (trees : List Tree) : List ElementStyle :=
  (tagsIn trees).filterMap ElementStyle.ofTag?

/-- The styles of a tree are those in what it holds. -/
theorem ofTree_eq_stylesIn (tree : Tree) : ElementStyle.ofTree tree = stylesIn tree.children := rfl

/-- Names beyond those of the styled elements are left over. -/
theorem restyleAll_append (o : StyleOptions) : ∀ (trees : List Tree) {names : List String}
    (names' : List String), names.length = (stylesIn trees).length →
    restyleAll o (names ++ names') trees = ((restyleAll o names trees).1, names')
  | [], names, names', size => by
    rw [stylesIn, tagsIn_nil] at size
    rw [List.eq_nil_of_length_eq_zero size]
    rfl
  | .string kind text :: trees, names, names', size => by
    have rest := @restyleAll_append o trees names names' (by
      rwa [stylesIn, tagsIn_string] at size)
    simp only [restyleAll, restyle, rest]
  | .element tag children :: trees, names, names', size => by
    rw [stylesIn, tagsIn_element] at size
    -- The names in hand are cut where the children have taken theirs.
    have inside : ∀ names : List String,
        names.length = (stylesIn children).length + (stylesIn trees).length →
        (restyleAll o (names ++ names') children).1 = (restyleAll o names children).1 ∧
          restyleAll o (restyleAll o (names ++ names') children).2 trees =
            ((restyleAll o (restyleAll o names children).2 trees).1, names') := by
      intro names size
      obtain ⟨own, others, rfl, first, second⟩ :
          ∃ own others : List String, names = own ++ others ∧
            own.length = (stylesIn children).length ∧ others.length = (stylesIn trees).length :=
        ⟨_, _, (List.take_append_drop (stylesIn children).length names).symm,
          by rw [List.length_take]; omega, by rw [List.length_drop]; omega⟩
      rw [List.append_assoc, restyleAll_append o children _ first,
        restyleAll_append o children _ first, restyleAll_append o trees _ second]
      exact ⟨rfl, rfl⟩
    cases found : ElementStyle.ofTag? tag with
    | none =>
      rw [List.filterMap_cons_none found, List.filterMap_append, List.length_append] at size
      obtain ⟨first, second⟩ := inside names size
      rw [restyleAll_kept found, restyleAll_kept found, first, second]
    | some style =>
      rw [List.filterMap_cons_some found, List.filterMap_append, List.length_cons,
        List.length_append] at size
      cases names with
      | nil => cases size
      | cons name names =>
        obtain ⟨first, second⟩ := inside names (Nat.succ.inj size)
        rw [List.cons_append, restyleAll_styled found, restyleAll_styled found, first, second]

end Markup.Tree

namespace StylePass

variable {α β : Type} {s : StyleStrategy} {c c' : Classing} {style : ElementStyle}

/-- A step and what follows it. -/
theorem bind_run (x : Styling α) (f : α → Styling β) (p : StylePass) :
    (x >>= f) p = match x p with
      | (.ok a, q) => f a q
      | (.error fault, q) => (.error fault, q) := by
  show (match x p with | (r, q) => ExceptT.bindCont f r q) = _
  obtain ⟨r, q⟩ := x p
  cases r <;> rfl

/-- To give an element a class is to ask for one and to note it. -/
theorem give_run (o : StyleOptions) (style : ElementStyle) (p : StylePass) :
    give o style p = match (p.meet style).converter.classFor o style with
      | (.ok (name, warnings), k) =>
        (.ok name, note name { p.meet style with
          converter := k, warnings := p.warnings ++ warnings })
      | (.error fault, k) => (.error fault, { p.meet style with converter := k }) := by
  rw [give, bind_run]
  show (ask o style >>= _) (p.meet style) = _
  rw [bind_run, ask]
  obtain ⟨r, k⟩ := (p.meet style).converter.classFor o style
  cases r <;> rfl

/-- A pass has given classes to the styles it met as a classing does. -/
structure Made (s : StyleStrategy) (c : Classing) (p : StylePass) : Prop where
  holds : p.converter.Holds s c
  met : p.styles.length = c.given.length
  elements : p.converter.figures.elements = c.given.length
  converted : p.converter.figures.converted = (StyleStrategy.classMap c.given).size
  files : p.converter.figures.files = 0
  classes : p.classes = StyleStrategy.classMap c.given
  warnings : p.warnings = c.unsupported

variable {p : StylePass}

/-- A pass that is made has the figures of the classes that were given. -/
theorem Made.figures (h : Made s c p) :
    p.converter.figures = s.figures c c.given.length := by
  have classes := h.holds.classCount
  have rules := h.holds.ruleCount
  have elements := h.elements
  have converted := h.converted
  have files := h.files
  cases figures : p.converter.figures
  simp_all [StyleStrategy.figures]

/-- An element that is met is counted before it has a class. -/
theorem Made.meet (h : Made s c p) (style : ElementStyle) :
    (p.meet style).converter.Holds s c ∧
      (p.meet style).converter.figures = s.figures c (c.given.length + 1) := by
  refine ⟨⟨h.holds.strategy, h.holds.rules, h.holds.shared, h.holds.used, h.holds.classCount,
    h.holds.ruleCount⟩, ?_⟩
  show { p.converter.figures with elements := p.converter.figures.elements + 1 } = _
  rw [h.figures]
  rfl

/-- An element is noted under its number if it is given any class. -/
theorem Made.note (h : Made s c p) {k : StyleConverter} {name : String} {warnings : List String}
    (gives : StyleConverter.Gives s c c' (p.meet style).converter k name warnings) :
    Made s c' (note name { p.meet style with
      converter := k, warnings := p.warnings ++ warnings }) := by
  have elements : k.figures.elements = c'.given.length := by
    rw [gives.elements, gives.given, List.length_append, List.length_singleton, ← h.elements]
    rfl
  have met : (p.meet style).styles.length = c'.given.length := by
    rw [gives.given, List.length_append, List.length_singleton, ← h.met, StylePass.meet,
      List.length_append, List.length_singleton]
  have files : k.figures.files = 0 := gives.files.trans h.files
  have said : p.warnings ++ warnings = c'.unsupported := by rw [h.warnings, gives.unsupported]
  have converted : k.figures.converted = (StyleStrategy.classMap c.given).size :=
    gives.converted.trans h.converted
  rw [StylePass.note]
  -- Only a class that is not empty is counted and put into the map.
  split
  · next empty =>
    have same : StyleStrategy.classMap c'.given = StyleStrategy.classMap c.given := by
      rw [gives.given, StyleStrategy.classMap_concat_empty empty]
    exact ⟨gives.holds, met, elements, converted.trans (congrArg Dict.size same.symm), files,
      h.classes.trans same.symm, said⟩
  · next some_ =>
    have entries := StyleStrategy.entries_classMap_concat c.given name
    rw [if_neg some_] at entries
    refine ⟨⟨gives.holds.strategy, gives.holds.rules, gives.holds.shared, gives.holds.used,
      gives.holds.classCount, gives.holds.ruleCount⟩, met, elements, ?_, files, ?_, said⟩
    · show k.figures.converted + 1 = _
      rw [converted, gives.given, Dict.size, Dict.size, entries, List.length_append,
        List.length_singleton]
    · show p.classes.put ("el-" ++ natText k.figures.elements) name = _
      rw [elements, h.classes, gives.given, StyleStrategy.classMap_concat some_, List.length_append,
        List.length_singleton]
      rfl

/-- One more style is met and given its classes, or refused before anything else is counted. -/
theorem Made.give (h : Made s c p) (o : StyleOptions) (style : ElementStyle) :
    match s.giveOne o c style, give o style p with
    | .ok c', (.ok name, p') =>
      c'.given = c.given ++ [name] ∧ p'.styles = p.styles ++ [style] ∧ Made s c' p'
    | .error fault, (result, p') => result = .error fault ∧ p'.converter.strategy = s ∧
      p'.converter.figures = s.figures c (c.given.length + 1)
    | .ok _, (.error _, _) => False := by
  obtain ⟨held, figures⟩ := h.meet style
  have step := held.classFor o style
  rw [give_run]
  cases asked : (p.meet style).converter.classFor o style with
  | mk result k =>
  rw [asked] at step
  cases given : s.giveOne o c style with
  | error fault =>
    rw [given] at step
    obtain ⟨rfl, rfl⟩ := step
    exact ⟨rfl, held.strategy, figures⟩
  | ok c' =>
    rw [given] at step
    cases result with
    | error fault => exact step
    | ok found =>
      obtain ⟨name, warnings⟩ := found
      refine ⟨step.given, ?_, h.note step⟩
      simp only [StylePass.note]
      split <;> rfl

/-- Gives styles their classes, one after the other. -/
def giveAll (o : StyleOptions) : List ElementStyle → Styling (List String)
  | [] => return []
  | style :: rest => return (← StylePass.give o style) :: (← giveAll o rest)

/-- Styles are met and given their classes as a classing does, up to the first that is refused. -/
theorem Made.giveAll (o : StyleOptions) : ∀ (styles : List ElementStyle) {c : Classing}
    {p : StylePass}, Made s c p →
    match s.giveAll o c styles, giveAll o styles p with
    | (c', none), (.ok names, p') =>
      c'.given = c.given ++ names ∧ p'.styles = p.styles ++ styles ∧ Made s c' p'
    | (c', some fault), (result, p') => result = .error fault ∧ p'.converter.strategy = s ∧
      p'.converter.figures = s.figures c' (c'.given.length + 1)
    | (_, none), (.error _, _) => False
  | [], c, p, h => ⟨(List.append_nil _).symm, (List.append_nil _).symm, h⟩
  | style :: rest, c, p, h => by
    have step := h.give o style
    rw [StylePass.giveAll, bind_run, StyleStrategy.giveAll]
    -- The step is that of the one style; what follows starts from the pass it left.
    cases one : StylePass.give o style p with
    | mk result q =>
    rw [one] at step
    cases given : s.giveOne o c style with
    | error fault =>
      rw [given] at step
      obtain ⟨rfl, kept⟩ := step
      exact ⟨rfl, kept⟩
    | ok c' =>
      rw [given] at step
      cases result with
      | error fault => exact step.elim
      | ok name =>
        obtain ⟨named, met, made⟩ := step
        have others := Made.giveAll o rest made
        simp only [bind_run]
        cases more : StylePass.giveAll o rest q with
        | mk result q' =>
        simp only [more] at others ⊢
        cases all : s.giveAll o c' rest with
        | mk c'' fault? =>
        rw [all] at others
        cases fault? with
        | some fault =>
          obtain ⟨rfl, kept⟩ := others
          exact ⟨rfl, kept⟩
        | none =>
          cases result with
          | error fault => exact others
          | ok names =>
            obtain ⟨names_, met', made'⟩ := others
            refine ⟨?_, ?_, made'⟩
            · rw [names_, named, List.append_assoc, List.singleton_append]
            · rw [met', met, List.append_assoc, List.singleton_append]

/-- A result of a step, seen through a function. -/
theorem map_run (f : α → β) (x : Styling α) (p : StylePass) :
    (f <$> x) p = match x p with
      | (.ok a, q) => (.ok (f a), q)
      | (.error fault, q) => (.error fault, q) := by
  rw [map_eq_pure_bind, bind_run]
  rfl

/-- Styles in a row are given their classes in a row. -/
theorem giveAll_append (o : StyleOptions) : ∀ styles styles' : List ElementStyle,
    giveAll o (styles ++ styles') =
      giveAll o styles >>= fun names => (names ++ ·) <$> giveAll o styles'
  | [], styles' => by
    rw [giveAll, pure_bind]
    exact (id_map (giveAll o styles')).symm
  | style :: rest, styles' => by
    simp only [List.cons_append, giveAll, giveAll_append o rest styles', bind_assoc, pure_bind,
      map_eq_pure_bind]

/-- Each style that is given a class has one name. -/
theorem length_giveAll {o : StyleOptions} : ∀ {styles : List ElementStyle} {p q : StylePass}
    {names : List String}, giveAll o styles p = (.ok names, q) → names.length = styles.length
  | [], p, q, names, h => by
    cases h
    rfl
  | style :: rest, p, q, names, h => by
    rw [giveAll, bind_run] at h
    cases one : StylePass.give o style p with
    | mk result q' =>
    cases result with
    | error fault =>
      simp only [one] at h
      cases h
    | ok name =>
      simp only [one, bind_run] at h
      cases more : giveAll o rest q' with
      | mk result q'' =>
      cases result with
      | error fault =>
        simp only [more] at h
        cases h
      | ok others =>
        simp only [more] at h
        cases h
        rw [List.length_cons, length_giveAll more, List.length_cons]

/-- A string is passed over by a pass. -/
theorem trees_string (o : StyleOptions) (kind : StringKind) (text : String) (rest : List Tree) :
    trees o (.string kind text :: rest) = (.string kind text :: ·) <$> trees o rest := by
  simp only [trees, tree, pure_bind, map_eq_pure_bind]

/-- An element is visited before what it holds and what stands behind it. -/
theorem trees_element (o : StyleOptions) (tag : Tag) (children rest : List Tree) :
    trees o (.element tag children :: rest) =
      visit o tag >>= fun tag => trees o children >>= fun children =>
        (.element tag children :: ·) <$> trees o rest := by
  simp only [trees, tree, bind_assoc, pure_bind, map_eq_pure_bind]

/-- What follows the giving of classes may rely on there being one for each style. -/
theorem giveAll_bind_congr {o : StyleOptions} {styles : List ElementStyle}
    {f g : List String → Styling α}
    (same : ∀ names, names.length = styles.length → f names = g names) :
    giveAll o styles >>= f = giveAll o styles >>= g := by
  funext p
  rw [bind_run, bind_run]
  cases given : giveAll o styles p with
  | mk result q =>
  cases result with
  | error fault => rfl
  | ok names => exact congrFun (same names (length_giveAll given)) q

/-- What is in an element and behind it is restyled with the names that are given to its styles. -/
theorem trees_inside {o : StyleOptions} {children rest : List Tree} (tag : Tag)
    (first : trees o children = (fun names => (Tree.restyleAll o names children).1) <$>
      giveAll o (Tree.stylesIn children))
    (second : trees o rest = (fun names => (Tree.restyleAll o names rest).1) <$>
      giveAll o (Tree.stylesIn rest)) :
    (trees o children >>= fun children => (.element tag children :: ·) <$> trees o rest) =
      (fun names => .element tag (Tree.restyleAll o names children).1 ::
          (Tree.restyleAll o (Tree.restyleAll o names children).2 rest).1) <$>
        giveAll o (Tree.stylesIn children ++ Tree.stylesIn rest) := by
  rw [first, second, giveAll_append, map_bind, bind_map_left]
  refine giveAll_bind_congr fun names size => ?_
  rw [Functor.map_map, Functor.map_map]
  refine congrArg (· <$> _) (funext fun names' => ?_)
  have inside := Tree.restyleAll_append o children names' size
  rw [inside]

/-- The elements of trees are restyled with the names that are given to their styles. -/
theorem trees_eq (o : StyleOptions) : ∀ ts : List Tree,
    trees o ts = (fun names => (Tree.restyleAll o names ts).1) <$> giveAll o (Tree.stylesIn ts)
  | [] => rfl
  | .string kind text :: rest => by
    have same : Tree.stylesIn (.string kind text :: rest) = Tree.stylesIn rest := by
      rw [Tree.stylesIn, Tree.tagsIn_string, Tree.stylesIn]
    rw [trees_string, trees_eq o rest, Functor.map_map, same]
    rfl
  | .element tag children :: rest => by
    have inside := fun tag => trees_inside tag (trees_eq o children) (trees_eq o rest)
    rw [trees_element, Tree.stylesIn, Tree.tagsIn_element, visit]
    cases found : ElementStyle.ofTag? tag with
    | none =>
      simp only [pure_bind, List.filterMap_cons_none found, List.filterMap_append,
        Tree.restyleAll_kept found]
      exact inside tag
    | some style =>
      simp only [bind_assoc, pure_bind, List.filterMap_cons_some found, List.filterMap_append,
        giveAll, map_bind, map_pure, Tree.restyleAll_styled found]
      refine bind_congr fun name => ?_
      exact (inside (tag.restyled o name)).trans (map_eq_pure_bind _ _)

end StylePass

end Componentry
