import Forms.Proofs.Tree.Slots

/-!
# Nodes without their children

A bare node is what is written of a node itself: its own members, and the headings of its parts, with
no child in any of them.  Whatever is put into a slot of a node or taken out of one, the bare node
stays as it is.
-/

namespace Forms

variable {Child : Type}

/-- A node over children of which nothing is known. -/
structure Shell where
  id : NonBlank
  visibleIf : Option Condition
  style : Option Json
  className : Option Json
  styleConfig : Option Json
  body : Body Unit

def Section.bare {Extras : Type} (part : Section Extras Child) : Section Extras Unit :=
  ⟨part.id, part.heading, [], part.extras⟩

namespace Layout

/-- The layout with empty sequences, and with no child in a slot that may be empty. -/
def bare : Layout Child → Layout Unit
  | .tabs sections defaultTab => .tabs (sections.map Section.bare) defaultTab
  | .stepper steps currentStep allowSkip => .stepper (steps.map Section.bare) currentStep allowSkip
  | .accordion panels defaultOpen allowMultiple =>
    .accordion (panels.map Section.bare) defaultOpen allowMultiple
  | .card _ _ _ variant => .card none [] none variant
  | .modal _ title _ size closeOnOverlay => .modal () title [] size closeOnOverlay
  | .grid columns gap _ => .grid columns gap []
  | .tooltip content _ position trigger => .tooltip content () position trigger

theorem bare_editSlot (layout : Layout Child) (number : Nat) (edit : SlotEdit Child) :
    (layout.editSlot number edit).bare = layout.bare := by
  have hsections {Extras : Type} (sections : List (Section Extras Child)) :
      (sections.modify number (·.edit edit.sequence)).map Section.bare =
        sections.map Section.bare := by
    apply map_modify_eq_map
    exact fun _ => rfl
  cases layout with
  | tabs sections => exact congrArg (tabs · _) (hsections sections)
  | stepper steps => exact congrArg (stepper · _ _) (hsections steps)
  | accordion panels => exact congrArg (accordion · _ _) (hsections panels)
  | card | modal | grid | tooltip => rcases number with _ | _ | _ | number <;> rfl

end Layout

namespace Body

def bare : Body Child → Body Unit
  | .field input props => .field input props
  | .display shown => .display shown
  | .container layout => .container layout.bare
  | .unknown tag fields => .unknown tag fields

theorem bare_editSlot (body : Body Child) (number : Nat) (edit : SlotEdit Child) :
    (body.editSlot number edit).bare = body.bare := by
  cases body with
  | container layout => exact congrArg container (layout.bare_editSlot number edit)
  | field | display | unknown => rfl

end Body

namespace Node

/-- What the node has of its own. -/
def bare (node : Node) : Shell :=
  ⟨node.id, node.visibleIf, node.style, node.className, node.styleConfig, node.body.bare⟩

/-- The node with one of its slots edited. -/
def editSlot (number : Nat) (edit : SlotEdit Node) (node : Node) : Node :=
  { node with body := node.body.editSlot number edit }

@[simp]
theorem bare_editSlot (number : Nat) (edit : SlotEdit Node) (node : Node) :
    (node.editSlot number edit).bare = node.bare := by
  rw [bare, bare, editSlot, Body.bare_editSlot]

/-- The walk of the node, each node without its children. -/
def bareWalk (node : Node) : List Shell := node.walk.map bare

theorem walk_eq (node : Node) : node.walk = node :: node.body.children.flatMap walk := by
  rw [walk, fold_eq, Body.children_map, ← List.flatMap_def]
  rfl

theorem bareWalk_eq (node : Node) :
    node.bareWalk = node.bare :: node.body.children.flatMap bareWalk := by
  rw [bareWalk, walk_eq, List.map_cons, List.map_flatMap]
  rfl

theorem ids_eq_map_bareWalk (node : Node) :
    node.ids = node.bareWalk.map fun shell => shell.id.text := by
  rw [ids, bareWalk, List.map_map]
  rfl

/-- The walk of a descendant is one stretch of the walk of the node, and a change of the descendant
replaces that stretch. -/
theorem exists_bareWalk_split {address : Address} {node target : Node}
    (htarget : node.at? address = some target) :
    ∃ before after, node.bareWalk = before ++ target.bareWalk ++ after ∧
      ∀ change, (node.modifyAt change address).bareWalk =
        before ++ (change target).bareWalk ++ after := by
  induction address generalizing node with
  | nil =>
      cases htarget
      exact ⟨[], [], by simp, fun change => by simp [modifyAt]⟩
  | cons step address ih =>
      obtain ⟨child, hchild, hinside⟩ := Option.bind_eq_some_iff.mp htarget
      obtain ⟨before, after, hwalk, hchange⟩ := ih hinside
      obtain ⟨first, last, hchildren, hmodify⟩ := Body.exists_modifyChild_split hchild
      refine ⟨node.bare :: first.flatMap bareWalk ++ before,
        after ++ last.flatMap bareWalk, ?_, fun change => ?_⟩
      · calc
          node.bareWalk = node.bare :: (first ++ child :: last).flatMap bareWalk := by
            rw [bareWalk_eq, hchildren]
          _ = node.bare :: (first.flatMap bareWalk ++
              (before ++ target.bareWalk ++ after ++ last.flatMap bareWalk)) := by
            rw [List.flatMap_append, List.flatMap_cons, hwalk]
          _ = _ := by simp only [List.append_assoc, List.cons_append]
      · calc
          (node.modifyAt change (step :: address)).bareWalk =
              node.bare ::
                (first ++ child.modifyAt change address :: last).flatMap bareWalk := by
            rw [bareWalk_eq, modifyAt, hmodify]
            exact congrArg (· :: _) (bare_editSlot ..)
          _ = node.bare :: (first.flatMap bareWalk ++
              (before ++ (change target).bareWalk ++ after ++ last.flatMap bareWalk)) := by
            rw [List.flatMap_append, List.flatMap_cons, hchange]
          _ = _ := by simp only [List.append_assoc, List.cons_append]

end Node

end Forms
