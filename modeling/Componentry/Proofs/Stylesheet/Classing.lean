import Componentry.Proofs.Stylesheet.ClassName
import Componentry.Proofs.Stylesheet.Rule

/-!
# Giving rules to styles

Each style either gets the class of a rule that was made before for the same declarations, or a rule
of its own with a class name that no rule has. The names that were made carry the numbers counted so
far, each at most as high as the count of its base; as a name tells base and number, the next one is
new. With sharing the memory holds one entry for each rule, its key and its name.
-/

set_option autoImplicit false

namespace Componentry
open Componentry.Text Componentry.Stylesheet

namespace StyleStrategy

variable {s : StyleStrategy} {o : StyleOptions} {c : Classing} {style : ElementStyle}

/-- The key of a style. -/
def keyOf (style : ElementStyle) : String := declarationKey style.declared

/-- The class name of a style before it is numbered. -/
def baseOf (s : StyleStrategy) (o : StyleOptions) (style : ElementStyle) : String :=
  s.baseClass o style (keyOf style)

/-- The name that is made next for a style. -/
def nextName (s : StyleStrategy) (o : StyleOptions) (c : Classing) (style : ElementStyle) :
    String :=
  s.numbered (s.baseOf o style) ((c.used.get? (s.baseOf o style)).getD 0 + 1)

/-- The rule that is made for a style under a class name. -/
def ruleFor (m : ElementStyle × String) : Rule :=
  { selectors := ["." ++ m.2], declarations := m.1.declarations }

/-- The rule that is made for a style is one of it. -/
theorem isRuleOf_ruleFor (m : ElementStyle × String) : ElementStyle.IsRuleOf (ruleFor m) m.1 :=
  ⟨rfl, rfl⟩

/-- A style gets the name that is remembered for its key, or a rule of its own. -/
theorem giveRule_cases (s : StyleStrategy) (o : StyleOptions) (c : Classing)
    (style : ElementStyle) :
    (∃ name, o.shares = true ∧ c.shared.get? (keyOf style) = some name ∧
      s.giveRule o c style = { c with given := c.given ++ [name] }) ∨
    ((o.shares = true → c.shared.get? (keyOf style) = none) ∧
      s.giveRule o c style = { c with
        given := c.given ++ [s.nextName o c style]
        rules := c.rules ++ [ruleFor (style, s.nextName o c style)]
        shared := if o.shares then c.shared.put (keyOf style) (s.nextName o c style) else c.shared
        used := c.used.put (s.baseOf o style)
          ((c.used.get? (s.baseOf o style)).getD 0 + 1) }) := by
  have key : declarationKey style.declared = keyOf style := rfl
  unfold giveRule
  simp only [key]
  by_cases shares : o.shares = true
  · simp only [if_pos shares]
    cases known : c.shared.get? (keyOf style) with
    | some name => exact .inl ⟨name, shares, rfl, rfl⟩
    | none => exact .inr ⟨fun _ => rfl, rfl⟩
  · simp only [if_neg shares]
    exact .inr ⟨fun h => absurd h shares, rfl⟩

/-- The class name of a style is that of a rule that was made for its key, and for the style itself
where nothing is shared. -/
structure IsGiven (o : StyleOptions) (made : List (ElementStyle × String)) (style : ElementStyle)
    (name : String) : Prop where
  exists_made : ∃ m ∈ made, m.2 = name ∧ keyOf m.1 = keyOf style ∧ (o.shares = false → m.1 = style)

/-- How a classing stands after some styles: the rules that were made, with their names, are those
it has, and every style has a name among them. -/
structure IsClassed (s : StyleStrategy) (o : StyleOptions) (styles : List ElementStyle)
    (made : List (ElementStyle × String)) (c : Classing) : Prop where
  rules : c.rules = made.map ruleFor
  numbers : ∀ m ∈ made, ∃ n ≤ (c.used.get? (s.baseOf o m.1)).getD 0,
    m.2 = s.numbered (s.baseOf o m.1) n
  nodup : (made.map Prod.snd).Nodup
  given : List.Forall₂ (IsGiven o made) styles c.given
  shared : o.shares = true → c.shared.entries = made.map fun m => (keyOf m.1, m.2)
  own : o.shares = false → made.map Prod.snd = c.given
  from_ : ∀ m ∈ made, m.1 ∈ styles

/-- Without styles no class is given. -/
theorem isClassed_nil (s : StyleStrategy) (o : StyleOptions) : IsClassed s o [] [] {} where
  rules := rfl
  numbers := by simp
  nodup := List.nodup_nil
  given := .nil
  shared := fun _ => rfl
  own := fun _ => rfl
  from_ := by simp

variable {styles : List ElementStyle} {made : List (ElementStyle × String)}

/-- A name that was given stays so when more are made. -/
theorem IsGiven.mono {name : String} {made' : List (ElementStyle × String)}
    (h : IsGiven o made style name) (more : made ⊆ made') : IsGiven o made' style name := by
  obtain ⟨m, hm, given⟩ := h.exists_made
  exact ⟨m, more hm, given⟩

/-- The name that is made next is new. -/
theorem IsClassed.nextName_not_mem (h : IsClassed s o styles made c) (style : ElementStyle) :
    s.nextName o c style ∉ made.map Prod.snd := by
  intro mem
  obtain ⟨m, hm, same⟩ := List.mem_map.1 mem
  obtain ⟨n, bound, name⟩ := h.numbers m hm
  rw [name] at same
  obtain ⟨base, number⟩ := numbered_baseClass_inj (o := o) same
  have base : s.baseOf o m.1 = s.baseOf o style := base
  rw [base] at bound
  omega

/-- A style whose name is remembered gets it. -/
theorem IsClassed.remembered (h : IsClassed s o styles made c) {name : String}
    (shares : o.shares = true) (known : c.shared.get? (keyOf style) = some name) :
    IsClassed s o (styles ++ [style]) made { c with given := c.given ++ [name] } where
  rules := h.rules
  numbers := h.numbers
  nodup := h.nodup
  given := by
    refine List.rel_append h.given (.cons ?_ .nil)
    rw [Dict.get?_eq_some_iff_mem, h.shared shares, List.mem_map] at known
    obtain ⟨m, hm, same⟩ := known
    rw [Prod.mk.injEq] at same
    exact ⟨m, hm, same.2, same.1, fun own => absurd (own.symm.trans shares) Bool.false_ne_true⟩
  shared := h.shared
  own := fun own => absurd (own.symm.trans shares) Bool.false_ne_true
  from_ := fun m hm => List.mem_append_left _ (h.from_ m hm)

/-- A style whose key is not remembered gets a rule of its own. -/
theorem IsClassed.ruled (h : IsClassed s o styles made c)
    (fresh : o.shares = true → c.shared.get? (keyOf style) = none) :
    IsClassed s o (styles ++ [style]) (made ++ [(style, s.nextName o c style)]) { c with
      given := c.given ++ [s.nextName o c style]
      rules := c.rules ++ [ruleFor (style, s.nextName o c style)]
      shared := if o.shares then c.shared.put (keyOf style) (s.nextName o c style) else c.shared
      used := c.used.put (s.baseOf o style) ((c.used.get? (s.baseOf o style)).getD 0 + 1) } where
  rules := by rw [h.rules, List.map_append, List.map_singleton]
  numbers := by
    intro m hm
    rcases List.mem_append.1 hm with old | new
    · obtain ⟨n, bound, name⟩ := h.numbers m old
      refine ⟨n, ?_, name⟩
      rw [Dict.get?_put]
      split
      · next base =>
        rw [base] at bound
        exact Nat.le_succ_of_le bound
      · exact bound
    · rw [List.mem_singleton.1 new]
      refine ⟨_, ?_, rfl⟩
      rw [Dict.get?_put, if_pos rfl]
      exact Nat.le_refl _
  nodup := by
    rw [List.map_append, List.map_singleton, List.nodup_append]
    refine ⟨h.nodup, by simp, ?_⟩
    intro a ha b hb same
    rw [List.mem_singleton] at hb
    rw [same, hb] at ha
    exact h.nextName_not_mem style ha
  given := by
    refine List.rel_append (h.given.imp fun _ _ given => ?_) (.cons ?_ .nil)
    · exact given.mono (List.subset_append_left made _)
    · exact ⟨_, List.mem_append_right _ (List.mem_singleton_self _), rfl, rfl, fun _ => rfl⟩
  shared := by
    intro shares
    have new : keyOf style ∉ c.shared.entries.map Prod.fst := by
      intro mem
      obtain ⟨e, he, key⟩ := List.mem_map.1 mem
      have known := Dict.get?_eq_some_iff_mem.2 he
      rw [key, fresh shares] at known
      cases known
    have put := Dict.putEntry_of_not_mem (v := s.nextName o c style) new
    rw [h.shared shares] at put
    simp only [if_pos shares, Dict.put, h.shared shares, put, List.map_append, List.map_singleton]
  own := fun own => by rw [List.map_append, List.map_singleton, h.own own]
  from_ := by
    intro m hm
    rcases List.mem_append.1 hm with old | new
    · exact List.mem_append_left _ (h.from_ m old)
    · rw [List.mem_singleton.1 new]
      exact List.mem_append_right _ (List.mem_singleton_self style)

/-- Giving one more style its class. -/
theorem IsClassed.giveRule (h : IsClassed s o styles made c) (style : ElementStyle) :
    ∃ made', IsClassed s o (styles ++ [style]) made' (s.giveRule o c style) := by
  rcases giveRule_cases s o c style with ⟨name, shares, known, same⟩ | ⟨fresh, same⟩
  · rw [same]
    exact ⟨made, h.remembered shares known⟩
  · rw [same]
    exact ⟨_, h.ruled fresh⟩

/-- Styles are classed after any run of them. -/
theorem IsClassed.foldl (h : IsClassed s o styles made c) (rest : List ElementStyle) :
    ∃ made', IsClassed s o (styles ++ rest) made' (rest.foldl (s.giveRule o) c) := by
  induction rest generalizing styles made c with
  | nil => exact ⟨made, by rwa [List.append_nil]⟩
  | cons style rest ih =>
    obtain ⟨made', next⟩ := h.giveRule style
    obtain ⟨made'', all⟩ := ih next
    rw [List.append_assoc, List.singleton_append] at all
    exact ⟨made'', all⟩

/-- How a classing stands after all styles. -/
theorem exists_isClassed (s : StyleStrategy) (o : StyleOptions) (styles : List ElementStyle) :
    ∃ made, IsClassed s o styles made (s.rulesFor o styles) :=
  (isClassed_nil s o).foldl styles

end StyleStrategy
end Componentry
