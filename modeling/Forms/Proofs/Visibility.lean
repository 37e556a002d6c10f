import Forms.Proofs.Tree.Search
import Forms.Rendering
import Mathlib.Data.List.Forall2

/-!
# What is drawn

A node is drawn when its tag is known, its own condition holds, and so do the conditions of all
nodes that enclose it.  What is drawn stands in the order of the walk, once for every node that is
drawn, and a container keeps each of its regions with what is drawn of the children there.
-/

namespace Forms

/-- A node of a tree with the nodes that enclose it, the innermost first. -/
structure Nested where
  enclosing : List Node
  node : Node

def Body.isKnown {Child : Type} : Body Child → Bool
  | .unknown _ _ => false
  | _ => true

namespace Nested

/-- The node and all that enclose it are visible, and its tag is known. -/
def isShown (values : Values) (place : Nested) : Bool :=
  place.node.body.isKnown
    && (place.node :: place.enclosing).all fun node => Condition.isVisible values node.visibleIf

end Nested

namespace Node

/-- The walk of a node that is enclosed by others, each node with those that enclose it. -/
def nested (node : Node) : (enclosing : List Node) → List Nested :=
  node.fold fun node inside enclosing =>
    ⟨enclosing, node⟩ :: inside.children.flatMap fun below => below (node :: enclosing)

theorem nested_eq (node : Node) (enclosing : List Node) :
    node.nested enclosing = ⟨enclosing, node⟩ ::
      node.body.children.flatMap fun child => child.nested (node :: enclosing) := by
  rw [nested, fold_eq, Body.children_map, List.flatMap_map]
  rfl

theorem nested_map_node (node : Node) (enclosing : List Node) :
    (node.nested enclosing).map Nested.node = node.walk := by
  induction node using induct generalizing enclosing with
  | node node ih =>
      rw [nested_eq, walk_eq, List.map_cons, List.map_flatMap]
      congr 1
      exact List.flatMap_congr fun child hchild => ih child hchild _

theorem suffix_of_mem_nested {node : Node} {enclosing : List Node} {place : Nested}
    (hplace : place ∈ node.nested enclosing) : enclosing <:+ place.enclosing := by
  induction node using induct generalizing enclosing with
  | node node ih =>
      rw [nested_eq, List.mem_cons, List.mem_flatMap] at hplace
      rcases hplace with rfl | ⟨child, hchild, hinside⟩
      · exact List.suffix_rfl
      · exact (List.suffix_cons _ _).trans (ih child hchild hinside)

end Node

/-- The walk of a sequence of nodes, each with those that enclose it. -/
def nestedIn (nodes : List Node) : List Nested := nodes.flatMap fun node => node.nested []

/-! ## The rendered tree -/

namespace RenderedNode

mutual
/-- A rendered node and all that it holds, depth first. -/
def walk : RenderedNode → List RenderedNode
  | ⟨id, tag, widget, field, regions⟩ =>
    ⟨id, tag, widget, field, regions⟩ :: walkOfRegions regions

def walkOfRegions : List (Region RenderedNode) → List RenderedNode
  | [] => []
  | ⟨_, _, nodes⟩ :: regions => walkOfNodes nodes ++ walkOfRegions regions

def walkOfNodes : List RenderedNode → List RenderedNode
  | [] => []
  | node :: nodes => walk node ++ walkOfNodes nodes
end

theorem walkOfNodes_eq_flatMap (nodes : List RenderedNode) :
    walkOfNodes nodes = nodes.flatMap walk := by
  induction nodes with
  | nil => simp [walkOfNodes]
  | cons node nodes ih => rw [walkOfNodes, ih, List.flatMap_cons]

theorem walk_eq (rendered : RenderedNode) :
    rendered.walk =
      rendered :: rendered.regions.flatMap fun region => region.nodes.flatMap walk := by
  have hregions : ∀ regions : List (Region RenderedNode),
      walkOfRegions regions = regions.flatMap fun region => region.nodes.flatMap walk := by
    intro regions
    induction regions with
    | nil => simp [walkOfRegions]
    | cons region regions ih =>
        obtain ⟨key, label, nodes⟩ := region
        rw [walkOfRegions, ih, walkOfNodes_eq_flatMap, List.flatMap_cons]
  obtain ⟨id, tag, widget, field, regions⟩ := rendered
  rw [walk, hregions]

mutual
theorem ids_eq_map_walk : ∀ rendered : RenderedNode, rendered.ids = rendered.walk.map id
  | ⟨id, tag, widget, field, regions⟩ => by
      rw [ids, walk, List.map_cons, idsOfRegions_eq_map_walk regions]

theorem idsOfRegions_eq_map_walk : ∀ regions : List (Region RenderedNode),
    idsOfRegions regions = (walkOfRegions regions).map id
  | [] => by simp [idsOfRegions, walkOfRegions]
  | ⟨key, label, nodes⟩ :: regions => by
      rw [idsOfRegions, walkOfRegions, List.map_append, idsOfNodes_eq_map_walk nodes,
        idsOfRegions_eq_map_walk regions]

theorem idsOfNodes_eq_map_walk : ∀ nodes : List RenderedNode,
    idsOfNodes nodes = (walkOfNodes nodes).map id
  | [] => by simp [idsOfNodes, walkOfNodes]
  | node :: nodes => by
      rw [idsOfNodes, walkOfNodes, List.map_append, ids_eq_map_walk node,
        idsOfNodes_eq_map_walk nodes]
end

end RenderedNode

/-! ## Drawing one node -/

namespace Body

variable {Child Result : Type}

theorem isSome_widget? (body : Body Child) : body.widget?.isSome = body.isKnown := by
  cases body with
  | field input props => cases input <;> rfl
  | display | container | unknown => rfl

theorem widget?_map (f : Child → Result) (body : Body Child) :
    (body.map f).widget? = body.widget? := by
  cases body with
  | field input props => cases input <;> rfl
  | container layout => cases layout <;> rfl
  | display | unknown => rfl

theorem field?_map (f : Child → Result) (body : Body Child) :
    (body.map f).field? = body.field? := by
  cases body <;> rfl

/-- The regions of rendered children, those left out that are not drawn. -/
theorem regions_map_filterMap (f : Child → Option Result) (body : Body Child) :
    (body.map f).regions.map (Region.filterMap fun child => child) =
      body.regions.map (Region.filterMap f) := by
  have hlist : ∀ nodes : List Child,
      (nodes.map f).filterMap (fun child => child) = nodes.filterMap f := by
    intro nodes
    rw [List.filterMap_map]
    rfl
  have hfilled : ∀ (key : String) (node : Option Child),
      (Layout.filledRegion key (node.map f)).map (Region.filterMap fun child => child) =
        (Layout.filledRegion key node).map (Region.filterMap f) := by
    intro key node
    cases node <;> rfl
  cases body with
  | container layout =>
      cases layout with
      | card header content footer variant =>
          simp only [map, regions, Layout.map, Layout.regions, List.map_append, hfilled,
            List.map_cons, List.map_nil, Region.filterMap, hlist]
      | tabs | stepper | accordion =>
          simp [map, regions, Layout.map, Layout.regions, Section.map, Section.region,
            Region.filterMap]
      | modal trigger title content size closeOnOverlay =>
          have htrigger := hlist [trigger]
          rw [List.map_singleton] at htrigger
          simp [map, regions, Layout.map, Layout.regions, Region.filterMap, htrigger]
      | tooltip content child position trigger =>
          have hchild := hlist [child]
          rw [List.map_singleton] at hchild
          simp [map, regions, Layout.map, Layout.regions, Region.filterMap, hchild]
      | grid => simp [map, regions, Layout.map, Layout.regions, Region.filterMap]
  | field | display | unknown => rfl

end Body

/-- What a rendered node is, told by the node that it was drawn from. -/
structure Draws (values : Values) (errors : Errors) (node : Node) (rendered : RenderedNode) :
    Prop where
  id : rendered.id = node.id.text
  tag : rendered.tag = node.tag
  widget : some rendered.widget = node.body.widget?
  field : rendered.field = node.body.field?.map (Field.render values errors)
  /-- Every region is there, with its key and heading, and holds what is drawn of its children. -/
  regions : rendered.regions = node.body.regions.map fun region =>
    ⟨region.key, region.label, renderNodes values errors region.nodes⟩

namespace Node

variable {values : Values} {errors : Errors}

theorem render?_eq (values : Values) (errors : Errors) (node : Node) :
    node.render? values errors =
      if Condition.isVisible values node.visibleIf then
        node.body.widget?.map fun widget =>
          ⟨node.id.text, node.tag, widget, node.body.field?.map (Field.render values errors),
            node.body.regions.map (Region.filterMap (render? values errors))⟩
      else none := by
  rw [render?, fold_eq, renderWith, Body.widget?_map, Body.field?_map, Body.regions_map_filterMap]
  rfl

theorem isSome_render? (values : Values) (errors : Errors) (node : Node) :
    (node.render? values errors).isSome =
      (node.body.isKnown && Condition.isVisible values node.visibleIf) := by
  rw [render?_eq]
  split
  · rename_i hvisible
    rw [Option.isSome_map, Body.isSome_widget?, hvisible, Bool.and_true]
  · rename_i hhidden
    rw [Bool.eq_false_iff.mpr hhidden, Bool.and_false]
    rfl

theorem draws_of_render? {node : Node} {rendered : RenderedNode}
    (hrendered : node.render? values errors = some rendered) :
    Draws values errors node rendered := by
  rw [render?_eq] at hrendered
  split at hrendered
  · obtain ⟨widget, hwidget, rfl⟩ := Option.map_eq_some_iff.mp hrendered
    exact ⟨rfl, rfl, hwidget.symm, rfl, rfl⟩
  · cases hrendered

/-- Nothing that a hidden node encloses is shown. -/
theorem filter_nested_eq_nil {node : Node} {enclosing : List Node}
    (hhidden : (enclosing.all fun node => Condition.isVisible values node.visibleIf) = false) :
    (node.nested enclosing).filter (Nested.isShown values) = [] := by
  rw [List.filter_eq_nil_iff]
  intro place hplace hshown
  rw [Nested.isShown, Bool.and_eq_true, List.all_cons, Bool.and_eq_true] at hshown
  have hall := List.all_eq_true.mp hshown.2.2
  obtain ⟨outer, houter, hnot⟩ := List.all_eq_false.mp hhidden
  exact hnot (hall outer ((suffix_of_mem_nested hplace).subset houter))

/-- A node that is not drawn shows none of its children: it is hidden, or it has none. -/
theorem filter_children_eq_nil {node : Node} {enclosing : List Node}
    (hrender : node.render? values errors = none) :
    node.body.children.flatMap (fun child =>
      (child.nested (node :: enclosing)).filter (Nested.isShown values)) = [] := by
  rw [List.flatMap_eq_nil_iff]
  intro child hchild
  have hnot := isSome_render? values errors node
  rw [hrender, Option.isSome_none] at hnot
  have hhidden : Condition.isVisible values node.visibleIf = false := by
    cases hbody : node.body with
    | unknown => simp [hbody, Body.children, Body.regions] at hchild
    | field | display | container => simpa [hbody, Body.isKnown] using hnot.symm
  apply filter_nested_eq_nil
  rw [List.all_cons, hhidden, Bool.false_and]

theorem walk_renderNodes (values : Values) (errors : Errors) (nodes : List Node) :
    (renderNodes values errors nodes).flatMap RenderedNode.walk =
      nodes.flatMap fun node => (node.render? values errors).toList.flatMap RenderedNode.walk := by
  rw [renderNodes, List.filterMap_eq_flatMap_toList, List.flatMap_assoc]

/-- A drawn node holds what is drawn of its children, region by region. -/
theorem walk_of_draws {node : Node} {rendered : RenderedNode}
    (hdraws : Draws values errors node rendered) :
    rendered.walk = rendered :: node.body.children.flatMap fun child =>
      (child.render? values errors).toList.flatMap RenderedNode.walk := by
  rw [RenderedNode.walk_eq, hdraws.regions, List.flatMap_map, Body.children, List.flatMap_assoc]
  simp only [walk_renderNodes]

end Node

/-- Lists that are made of related parts are related. -/
theorem forall₂_flatMap {α β γ : Type} {R : β → γ → Prop} {items : List α} {left : α → List β}
    {right : α → List γ} (h : ∀ item ∈ items, List.Forall₂ R (left item) (right item)) :
    List.Forall₂ R (items.flatMap left) (items.flatMap right) := by
  induction items with
  | nil => exact .nil
  | cons item items ih =>
      rw [List.forall_mem_cons] at h
      rw [List.flatMap_cons, List.flatMap_cons]
      exact List.rel_append h.1 (ih h.2)

/-- Within visible surroundings, a node draws what is shown of its walk. -/
theorem Node.draws_nested {values : Values} {errors : Errors} (node : Node) {enclosing : List Node}
    (hvisible : (enclosing.all fun node => Condition.isVisible values node.visibleIf) = true) :
    List.Forall₂ (fun place rendered => Draws values errors place.node rendered)
      ((node.nested enclosing).filter (Nested.isShown values))
      ((node.render? values errors).toList.flatMap RenderedNode.walk) := by
  induction node using induct generalizing enclosing with
  | node node ih =>
      have hsome := isSome_render? values errors node
      have hshown : Nested.isShown values ⟨enclosing, node⟩ =
          (node.render? values errors).isSome := by
        rw [hsome, Nested.isShown, List.all_cons, hvisible, Bool.and_true]
      rw [nested_eq, List.filter_cons, hshown, List.filter_flatMap]
      cases hrender : node.render? values errors with
      | none =>
          rw [filter_children_eq_nil hrender]
          exact .nil
      | some rendered =>
          have hdraws := draws_of_render? hrender
          rw [hrender, Option.isSome_some, eq_comm, Bool.and_eq_true] at hsome
          have hinside : (node :: enclosing).all
              (fun node => Condition.isVisible values node.visibleIf) = true := by
            rw [List.all_cons, hsome.2, hvisible, Bool.and_self]
          rw [Option.isSome_some, if_pos rfl, Option.toList_some, List.flatMap_singleton,
            walk_of_draws hdraws]
          exact .cons hdraws (forall₂_flatMap fun child hchild => ih child hchild hinside)

/-! ## Drawing a sequence -/

/-- A sequence of nodes is drawn exactly: the identifiers that are drawn are those of the nodes that
are shown, in the order of the walk; each drawn node is drawn from its own node, with all regions of
that node; and every node of the sequence stands for itself, so that one which is not drawn leaves
the others as they are. -/
theorem renderNodes_exact (values : Values) (errors : Errors) (nodes : List Node) :
    (nestedIn nodes).map Nested.node = nodes.flatMap Node.walk ∧
    RenderedNode.idsOfNodes (renderNodes values errors nodes) =
      ((nestedIn nodes).filter (Nested.isShown values)).map (fun place => place.node.id.text) ∧
    List.Forall₂ (fun place rendered => Draws values errors place.node rendered)
      ((nestedIn nodes).filter (Nested.isShown values))
      (RenderedNode.walkOfNodes (renderNodes values errors nodes)) ∧
    ∀ before node after, renderNodes values errors (before ++ node :: after) =
        renderNodes values errors before ++ (node.render? values errors).toList
          ++ renderNodes values errors after ∧
      (node.render? values errors).isSome =
        (node.body.isKnown && Condition.isVisible values node.visibleIf) := by
  have hdraws : List.Forall₂ (fun place rendered => Draws values errors place.node rendered)
      ((nestedIn nodes).filter (Nested.isShown values))
      (RenderedNode.walkOfNodes (renderNodes values errors nodes)) := by
    rw [nestedIn, List.filter_flatMap, RenderedNode.walkOfNodes_eq_flatMap, Node.walk_renderNodes]
    exact forall₂_flatMap fun node _ => node.draws_nested rfl
  refine ⟨?_, ?_, hdraws, fun before node after => ⟨?_, Node.isSome_render? values errors node⟩⟩
  · rw [nestedIn, List.map_flatMap]
    exact List.flatMap_congr fun node _ => node.nested_map_node []
  · rw [RenderedNode.idsOfNodes_eq_map_walk, eq_comm, ← List.forall₂_eq_eq_eq,
      List.forall₂_map_left_iff, List.forall₂_map_right_iff]
    exact hdraws.imp fun _ _ h => h.id.symm
  · rw [renderNodes, renderNodes, renderNodes, List.filterMap_append, List.filterMap_cons,
      List.append_assoc]
    cases node.render? values errors <;> rfl

end Forms
