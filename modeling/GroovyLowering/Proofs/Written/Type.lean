import GroovyLowering.Proofs.Moved
import GroovyLowering.Proofs.Step
import GroovyLowering.Proofs.Written.Text

/-!
# Types are written back

A type is written by its productions (`WrittenType`), to any nesting: a class with or without type
arguments, a primitive type, and dimensions behind a type.  A type argument is a type or a wildcard,
with a bound or without.

The tree of a type and the text of what it is lowered to differ in one thing.  Where there are
dimensions, the type arguments of the component are dropped.  `WrittenType.keptUnder` drops them
from the written type; it is given the number of dimensions that stand further out, since dimensions
may be appended in several steps.

Lowering does not see these steps.  The dimensions of a node are counted all at once, so the
induction is on the written type for every number of dimensions behind it (`WrittenType.restores`).
-/

namespace GroovyLowering

theorem typeArgumentTexts_eq_map (generics : List TypeArgument) :
    typeArgumentTexts generics = generics.map TypeArgument.text := by
  induction generics with
  | nil => rfl
  | cons argument rest ih => rw [typeArgumentTexts, ih, List.map_cons]

/-! ## Layers of arrays -/

/-- A type is an array of arrays of a given core, so many times. -/
inductive TypeRef.Layered (core : TypeShape) : Nat → TypeRef → Prop where
  | core (span : Span) : Layered core 0 ⟨core, span⟩
  | array {count : Nat} {type : TypeRef} (h : Layered core count type) (span : Span) :
    Layered core (count + 1) ⟨.array type, span⟩

namespace TypeRef

variable {core : TypeShape} {count : Nat} {type : TypeRef}

theorem Layered.withSpan (h : type.Layered core count) (span : Span) :
    Layered core count { type with span := span } := by
  cases h with
  | core _ => exact .core span
  | array h _ => exact .array h span

theorem layered_withDimensions (type : TypeRef) (count : Nat) :
    (type.withDimensions count).Layered type.shape count := by
  induction count with
  | zero =>
    obtain ⟨shape, span⟩ := type
    exact .core span
  | succ count ih => exact .array ih _

/-- Every layer is written behind the core. -/
theorem Layered.text_eq (h : type.Layered core count) :
    type.text = core.text ++ String.join (List.replicate count "[]") := by
  induction h with
  | core span => rw [TypeRef.text, List.replicate_zero, String.join_nil, String.append_empty]
  | array _ span ih =>
    rw [TypeRef.text, TypeShape.text, ih, List.replicate_succ', String.join_append,
      String.append_assoc]
    rfl

/-- Types that differ in places only have the same layers. -/
theorem Layered.of_mapSpans_eq {f : Span → Span} (h : type.Layered core count) {other : TypeRef}
    (heq : other.mapSpans f = type.mapSpans f) :
    ∃ inner, other.Layered inner count ∧ inner.mapSpans f = core.mapSpans f := by
  induction h generalizing other with
  | core span =>
    obtain ⟨shape, span'⟩ := other
    exact ⟨shape, .core span', (TypeRef.mapSpans_eq_iff.1 heq).1⟩
  | array _ span ih =>
    obtain ⟨shape, span'⟩ := other
    have hshape := (TypeRef.mapSpans_eq_iff.1 heq).1
    cases shape with
    | array component =>
      obtain ⟨inner, hinner, hsame⟩ := ih (TypeShape.array.inj hshape)
      exact ⟨inner, .array hinner span', hsame⟩
    | named name generics => cases hshape
    | primitive name => cases hshape
    | void => cases hshape
    | dynamic => cases hshape

end TypeRef

namespace TypeShape

variable {f : Span → Span} {shape : TypeShape} {name : String}

theorem exists_of_mapSpans_eq_named {generics : Option (List TypeArgument)}
    (h : shape.mapSpans f = .named name (mapSpansInGenerics? f generics)) :
    ∃ generics', shape = .named name generics' ∧
      mapSpansInGenerics? f generics' = mapSpansInGenerics? f generics := by
  cases shape with
  | named name' generics' =>
    obtain ⟨rfl, hgenerics⟩ := TypeShape.named.inj h
    exact ⟨generics', rfl, hgenerics⟩
  | primitive name => cases h
  | array component => cases h
  | void => cases h
  | dynamic => cases h

theorem eq_of_mapSpans_eq_primitive (h : shape.mapSpans f = .primitive name) :
    shape = .primitive name := by
  cases shape with
  | primitive name' => exact h
  | named name generics => cases h
  | array component => cases h
  | void => cases h
  | dynamic => cases h

end TypeShape

/-! ## Dimensions behind a type -/

namespace Production

variable (n : Node) (count : Nat) (role : Role)

theorem arrayType_succ :
    arrayType n (count + 1) = (arrayType n count).write .dimension .punct "[]" := by
  rw [arrayType, List.range_succ, List.foldl_append]
  rfl

theorem arrayType_arrayType (count' : Nat) :
    arrayType (arrayType n count) count' = arrayType n (count + count') := by
  induction count' with
  | zero => rfl
  | succ count' ih => rw [arrayType_succ, ih, ← Nat.add_assoc, arrayType_succ]

@[simp] theorem nodes_arrayType : (arrayType n count).nodes role = n.nodes role := by
  induction count with
  | zero => rfl
  | succ count ih => rw [arrayType_succ, Node.nodes_write, ih]

theorem tokens_arrayType :
    (arrayType n count).tokens role =
      n.tokens role ++
        if role = .dimension then List.replicate count (.unplaced .punct "[]") else [] := by
  induction count with
  | zero => simp [arrayType]
  | succ count ih =>
    rw [arrayType_succ, Node.tokens_write, ih, List.append_assoc]
    by_cases h : role = .dimension
    · simp [h, List.replicate_succ']
    · simp [h, Ne.symm h]

theorem node?_arrayType : (arrayType n count).node? role = n.node? role := by
  rw [Node.node?, nodes_arrayType, Node.node?]

theorem token?_arrayType (h : role ≠ .dimension) :
    (arrayType n count).token? role = n.token? role := by
  rw [Node.token?, tokens_arrayType, if_neg h, List.append_nil, Node.token?]

theorem length_dimensions_arrayType :
    ((arrayType n count).tokens .dimension).length = (n.tokens .dimension).length + count := by
  rw [tokens_arrayType, if_pos rfl, List.length_append, List.length_replicate]

@[simp] theorem text_arrayType :
    (arrayType n count).text = n.text ++ String.join (List.replicate count "[]") := by
  induction count with
  | zero => rw [List.replicate_zero, String.join_nil, String.append_empty]; rfl
  | succ count ih =>
    rw [arrayType_succ, Node.text_write, ih, List.replicate_succ', String.join_append,
      String.append_assoc]
    rfl

end Production

/-! ## Written types -/

mutual

/-- A type as it is put together by hand. -/
inductive WrittenType where
  /-- A class without type arguments. -/
  | named (parts : List String)
  /-- A class with type arguments, or with a diamond. -/
  | generic (parts : List String) (arguments : List WrittenArgument)
  /-- A primitive type. -/
  | primitive (name : String)
  /-- A type with dimensions behind it. -/
  | array (component : WrittenType) (count : Nat)

/-- A type argument as it is put together by hand. -/
inductive WrittenArgument where
  /-- A type. -/
  | exact (type : WrittenType)
  /-- A wildcard without a bound. -/
  | wildcard
  /-- A wildcard with an upper bound. -/
  | upper (bound : WrittenType)
  /-- A wildcard with a lower bound. -/
  | lower (bound : WrittenType)

end

mutual

/-- The tree of a type. -/
def WrittenType.node : WrittenType → Node
  | .named parts => Production.classType parts
  | .generic parts arguments =>
    Production.genericType parts (Production.typeArguments (argumentNodes arguments))
  | .primitive name => Production.primitiveType name
  | .array component count => Production.arrayType component.node count

/-- The tree of a type argument. -/
def WrittenArgument.node : WrittenArgument → Node
  | .exact type => Production.typeArgument type.node
  | .wildcard => Production.wildcard none
  | .upper bound => Production.wildcard (some ("extends", bound.node))
  | .lower bound => Production.wildcard (some ("super", bound.node))

/-- The trees of type arguments. -/
def argumentNodes : List WrittenArgument → List Node
  | [] => []
  | argument :: rest => argument.node :: argumentNodes rest

end

mutual

/-- A type without the type arguments that dimensions drop, given how many stand further out. -/
def WrittenType.keptUnder : Nat → WrittenType → WrittenType
  | _, .named parts => .named parts
  | 0, .generic parts arguments => .generic parts (keptArguments arguments)
  | _ + 1, .generic parts _ => .named parts
  | _, .primitive name => .primitive name
  | outer, .array component count => .array (component.keptUnder (count + outer)) count

/-- A type argument without what dimensions drop inside it. -/
def WrittenArgument.kept : WrittenArgument → WrittenArgument
  | .exact type => .exact (type.keptUnder 0)
  | .wildcard => .wildcard
  | .upper bound => .upper (bound.keptUnder 0)
  | .lower bound => .lower (bound.keptUnder 0)

/-- Type arguments without what dimensions drop inside them. -/
def keptArguments : List WrittenArgument → List WrittenArgument
  | [] => []
  | argument :: rest => argument.kept :: keptArguments rest

end

/-- A type without the type arguments that dimensions drop. -/
def WrittenType.kept (t : WrittenType) : WrittenType := t.keptUnder 0

/-- What a type names inside its dimensions. -/
def WrittenType.Names : WrittenType → TypeShape → Prop
  | .named parts, core => core = .named (".".intercalate parts) none
  | .generic parts _, core => ∃ generics, core = .named (".".intercalate parts) generics
  | .primitive name, core => core = .primitive name
  | .array component _, core => component.Names core

/-- What a type names does not depend on places. -/
theorem WrittenType.Names.of_mapSpans_eq {f : Span → Span} {core other : TypeShape} :
    ∀ {t : WrittenType}, t.Names core → other.mapSpans f = core.mapSpans f → t.Names other
  | .named parts, h, heq => by
    obtain rfl : core = _ := h
    obtain ⟨generics, rfl, hgenerics⟩ := TypeShape.exists_of_mapSpans_eq_named heq
    cases generics with
    | none => rfl
    | some generics => cases hgenerics
  | .generic parts arguments, ⟨generics, h⟩, heq => by
    subst h
    obtain ⟨generics', rfl, -⟩ := TypeShape.exists_of_mapSpans_eq_named heq
    exact ⟨generics', rfl⟩
  | .primitive name, h, heq => by
    obtain rfl : core = _ := h
    exact TypeShape.eq_of_mapSpans_eq_primitive heq
  | .array component _, h, heq => of_mapSpans_eq (t := component) h heq

/-! ## Lowering a class -/

theorem Production.dottedName_qualifiedClassName (parts : List String) :
    (qualifiedClassName parts).dottedName = ".".intercalate parts :=
  congrArg (".".intercalate ·) (tokens_part_dotted _ parts)

theorem TypeShape.text_named (parts : List String) :
    text (.named (".".intercalate parts) none) = (Production.classType parts).text := by
  simp [text, Production.classType, Production.qualifiedClassName]

namespace Scope

section

variable {s : Scope} {n child : Node} {type : TypeRef} {parts : List String} {count : Nat}

theorem exists_classType (hname : n.node? .name = some (Production.qualifiedClassName parts))
    (hnone : n.node? .typeArguments = none) :
    ∃ type, s.classType n = .ok type ∧ type.shape = .named (".".intercalate parts) none := by
  rw [classType_eq, bind_node hname, hnone]
  refine ⟨_, rfl, ?_⟩
  rw [← Production.dottedName_qualifiedClassName]
  rfl

theorem exists_classType_of_arguments
    (hname : n.node? .name = some (Production.qualifiedClassName parts))
    (hchild : n.node? .typeArguments = some child) {generics : List TypeArgument}
    (h : s.typeArguments child = .ok generics) :
    ∃ type, s.classType n = .ok type ∧
      type.shape = .named (".".intercalate parts) (some generics) := by
  rw [classType_eq, bind_node hname, hchild]
  dsimp only
  rw [Lowered.bind_of_ok h, ← Production.dottedName_qualifiedClassName]
  exact ⟨_, rfl, rfl⟩

/-- A class is lowered with the dimensions behind it, which drop its type arguments. -/
theorem exists_typeRef_of_class (hchild : n.node? .classType = some child)
    (h : s.classType child = .ok type) (hnone : n.tokens .dimension = []) (count : Nat) :
    ∃ result, s.typeRef (Production.arrayType n count) = .ok result ∧ result.Layered
      (if 0 < count then type.shape.withGenerics none else type.shape) count := by
  rw [typeRef_eq, Production.node?_arrayType, hchild, Production.length_dimensions_arrayType,
    hnone, List.length_nil, Nat.zero_add]
  dsimp only
  rw [Lowered.bind_of_ok h]
  refine ⟨_, rfl, ?_⟩
  split
  · exact (TypeRef.layered_withDimensions ⟨_, type.span⟩ count).withSpan _
  · exact (TypeRef.layered_withDimensions _ count).withSpan _

theorem exists_typeRef_classType (s : Scope) (parts : List String) (count : Nat) :
    ∃ result, s.typeRef (Production.arrayType (Production.classType parts) count) = .ok result ∧
      result.Layered (.named (".".intercalate parts) none) count := by
  obtain ⟨type, htype, hshape⟩ := exists_classType (s := s)
    (n := (Node.bare .classOrInterfaceType).withNode .name (Production.qualifiedClassName parts))
    rfl rfl
  obtain ⟨result, hresult, hlayered⟩ :=
    exists_typeRef_of_class (n := Production.classType parts) rfl htype rfl count
  rw [hshape, TypeShape.withGenerics, ite_self] at hlayered
  exact ⟨result, hresult, hlayered⟩

/-- Dimensions behind a class drop its type arguments, which are lowered all the same. -/
theorem exists_typeRef_genericType {arguments : Node} {generics : List TypeArgument}
    (h : s.typeArguments arguments = .ok generics) (parts : List String) (count : Nat) :
    ∃ result,
      s.typeRef (Production.arrayType (Production.genericType parts arguments) count) = .ok result ∧
      result.Layered
        (.named (".".intercalate parts) (if 0 < count then none else some generics)) count := by
  obtain ⟨type, htype, hshape⟩ := exists_classType_of_arguments
    (n := ((Node.bare .classOrInterfaceType).withNode .name
      (Production.qualifiedClassName parts)).withNode .typeArguments arguments) rfl rfl h
  obtain ⟨result, hresult, hlayered⟩ :=
    exists_typeRef_of_class (n := Production.genericType parts arguments) rfl htype rfl count
  refine ⟨result, hresult, ?_⟩
  rw [hshape, TypeShape.withGenerics] at hlayered
  split at hlayered
  · next hpos => rwa [if_pos hpos]
  · next hzero => rwa [if_neg hzero]

/-- A primitive type is lowered with the dimensions behind it. -/
theorem exists_typeRef_primitiveType (s : Scope) (name : String) (count : Nat) :
    ∃ result, s.typeRef (Production.arrayType (Production.primitiveType name) count) = .ok result ∧
      result.Layered (.primitive name) count := by
  have hchild : (Production.primitiveType name).node? .classType = none := rfl
  have htoken : (Production.primitiveType name).token? .primitive =
      some (.unplaced .builtInPrimitiveType name) := rfl
  have hnone : (Production.primitiveType name).tokens .dimension = [] := rfl
  rw [typeRef_eq, Production.node?_arrayType, hchild,
    Production.token?_arrayType _ _ _ (by decide), htoken, Production.length_dimensions_arrayType,
    hnone, List.length_nil, Nat.zero_add]
  exact ⟨_, rfl, (TypeRef.layered_withDimensions ⟨_, _⟩ count).withSpan _⟩

end

/-! ## Lowering a written type -/

/-- A tree is lowered to a type with its layers of arrays over what a written type names, and with
the text of a given tree. -/
def RestoresType (s : Scope) (n : Node) (t : WrittenType) (kept : Node) : Prop :=
  ∃ type core, s.typeRef n = .ok type ∧ t.Names core ∧
    type.Layered core (n.tokens .dimension).length ∧ unspaced type.text = unspaced kept.text

section

variable {s : Scope} {t : WrittenType} {n kept : Node} {core : TypeShape} {count : Nat}

theorem restoresType_of_layered (hnames : t.Names core)
    (htext : unspaced core.text = unspaced kept.text) (hnone : n.tokens .dimension = [])
    (h : ∃ type, s.typeRef (Production.arrayType n count) = .ok type ∧ type.Layered core count) :
    s.RestoresType (Production.arrayType n count) t (Production.arrayType kept count) := by
  obtain ⟨type, htype, hlayered⟩ := h
  refine ⟨type, core, htype, hnames, ?_, ?_⟩
  · rwa [Production.length_dimensions_arrayType, hnone, List.length_nil, Nat.zero_add]
  · rw [hlayered.text_eq, Production.text_arrayType, unspaced_append, unspaced_append, htext]

theorem restoresType_named {parts : List String} (s : Scope) (count : Nat)
    (hnames : t.Names (.named (".".intercalate parts) none)) :
    s.RestoresType (Production.arrayType (Production.classType parts) count) t
      (Production.arrayType (Production.classType parts) count) :=
  restoresType_of_layered hnames (congrArg unspaced (TypeShape.text_named parts)) rfl
    (exists_typeRef_classType s parts count)

theorem restoresType_primitive (s : Scope) (name : String) (count : Nat) :
    s.RestoresType (Production.arrayType (Production.primitiveType name) count) (.primitive name)
      (Production.arrayType (Production.primitiveType name) count) := by
  have htext : TypeShape.text (.primitive name) = (Production.primitiveType name).text := by
    simp [TypeShape.text, Production.primitiveType]
  exact restoresType_of_layered rfl (congrArg unspaced htext) rfl
    (exists_typeRef_primitiveType s name count)

theorem restoresType_generic_dropped {parts : List String} {arguments : List WrittenArgument}
    {generics : List TypeArgument}
    (h : s.typeArguments (Production.typeArguments (argumentNodes arguments)) = .ok generics)
    (count : Nat) :
    s.RestoresType (Production.arrayType (WrittenType.generic parts arguments).node (count + 1))
      (.generic parts arguments)
      (Production.arrayType (Production.classType parts) (count + 1)) := by
  have hlower := exists_typeRef_genericType h parts (count + 1)
  rw [if_pos count.succ_pos] at hlower
  exact restoresType_of_layered ⟨none, rfl⟩ (congrArg unspaced (TypeShape.text_named parts)) rfl
    hlower

/-- Without dimensions the type arguments are kept. -/
theorem restoresType_generic {parts : List String} {arguments : List WrittenArgument}
    {generics : List TypeArgument}
    (h : s.typeArguments (Production.typeArguments (argumentNodes arguments)) = .ok generics)
    (htexts : generics.map (unspaced ·.text) =
      (argumentNodes (keptArguments arguments)).map (unspaced ·.text)) :
    s.RestoresType (WrittenType.generic parts arguments).node (.generic parts arguments)
      (WrittenType.generic parts (keptArguments arguments)).node := by
  have hlower := exists_typeRef_genericType h parts 0
  rw [if_neg (Nat.lt_irrefl 0)] at hlower
  have htext : unspaced (TypeShape.text (.named (".".intercalate parts) (some generics))) =
      unspaced (WrittenType.generic parts (keptArguments arguments)).node.text := by
    have htexts' : generics.map (unspaced ∘ TypeArgument.text) =
        (argumentNodes (keptArguments arguments)).map fun c => unspaced c.text := htexts
    rw [TypeShape.text, typeArgumentTexts_eq_map]
    simp [WrittenType.node, Production.genericType, Production.qualifiedClassName,
      Production.typeArguments, unspaced_intercalate, htexts']
  have hnames : (WrittenType.generic parts arguments).Names
      (.named (".".intercalate parts) (some generics)) := ⟨_, rfl⟩
  exact restoresType_of_layered hnames htext rfl hlower

/-- Dimensions behind dimensions are counted together. -/
theorem RestoresType.array {component : WrittenType} {outer : Nat}
    (h : s.RestoresType (Production.arrayType component.node (count + outer)) component
      (Production.arrayType (component.keptUnder (count + outer)).node (count + outer))) :
    s.RestoresType (Production.arrayType (WrittenType.array component count).node outer)
      (.array component count)
      (Production.arrayType ((WrittenType.array component count).keptUnder outer).node outer) := by
  rw [WrittenType.keptUnder, WrittenType.node, WrittenType.node, Production.arrayType_arrayType,
    Production.arrayType_arrayType]
  exact h

end

/-! ## Lowering type arguments -/

theorem typeArguments_production (s : Scope) (arguments : List Node) :
    s.typeArguments (Production.typeArguments arguments) = arguments.mapM s.typeArgument := by
  have hnodes : (Production.typeArguments arguments).nodes .argument = arguments := by
    simp [Production.typeArguments, Node.withList]
  rw [typeArguments_eq, hnodes]

/-- A tree is lowered to a type argument with the text of a given tree. -/
def RestoresArgument (s : Scope) (n kept : Node) : Prop :=
  ∃ argument, s.typeArgument n = .ok argument ∧ unspaced argument.text = unspaced kept.text

section

variable {s : Scope} {t : WrittenType} {n kept : Node}

theorem restoresArgument_exact (h : s.RestoresType n t kept) :
    s.RestoresArgument (Production.typeArgument n) (Production.typeArgument kept) := by
  obtain ⟨type, -, htype, -, -, htext⟩ := h
  have hquestion : (Production.typeArgument n).has .question = false := rfl
  have hchild : (Production.typeArgument n).node? .type = some n := rfl
  refine ⟨⟨.exact type, (Production.typeArgument n).span⟩, ?_, ?_⟩
  · rw [typeArgument_eq, hquestion, hchild]
    dsimp only [Bool.false_eq_true, if_false]
    rw [Lowered.bind_of_ok htype]
    rfl
  · rw [TypeArgument.text, TypeArgumentShape.text, htext]
    simp [Production.typeArgument]

theorem restoresArgument_wildcard (s : Scope) :
    s.RestoresArgument (Production.wildcard none) (Production.wildcard none) := by
  refine ⟨⟨.wildcard none none, (Production.wildcard none).span⟩, ?_, rfl⟩
  rw [typeArgument_eq]
  rfl

/-- The keyword in front of a bound says which side of the wildcard it is on. -/
theorem restoresArgument_bound {word : String} (hword : word ∈ ["extends", "super"])
    (h : s.RestoresType n t kept) :
    s.RestoresArgument (Production.wildcard (some (word, n)))
      (Production.wildcard (some (word, kept))) := by
  obtain ⟨type, -, htype, -, -, htext⟩ := h
  have hbound : s.wildcardBound (Production.wildcard (some (word, n))) = .ok (some type) := by
    have hchild : (Production.wildcard (some (word, n))).node? .type = some n := rfl
    rw [wildcardBound, hchild]
    dsimp only
    rw [Lowered.bind_of_ok htype]
    rfl
  have hargument : s.typeArgument (Production.wildcard (some (word, n))) =
      s.wildcardOf (Production.wildcard (some (word, n))) (some type) := by
    have hquestion : (Production.wildcard (some (word, n))).has .question = true := rfl
    rw [typeArgument_eq, if_pos hquestion, Lowered.bind_of_ok hbound]
  rw [List.mem_cons, List.mem_singleton] at hword
  rcases hword with rfl | rfl
  · refine ⟨⟨.wildcard (some type) none, _⟩, hargument, ?_⟩
    rw [TypeArgument.text, TypeArgumentShape.text, unspaced_append, htext]
    simp [Production.wildcard, Node.keyword]
    rfl
  · refine ⟨⟨.wildcard none (some type), _⟩, hargument, ?_⟩
    rw [TypeArgument.text, TypeArgumentShape.text, unspaced_append, htext]
    simp [Production.wildcard, Node.keyword]
    rfl

end

end Scope

/-! ## Types to any nesting -/

open Scope

mutual

/-- Every written type is restored, whatever dimensions stand behind it. -/
theorem WrittenType.restores (s : Scope) : ∀ (t : WrittenType) (outer : Nat),
    s.RestoresType (Production.arrayType t.node outer) t
      (Production.arrayType (t.keptUnder outer).node outer)
  | .named parts, outer => by
    rw [WrittenType.keptUnder, WrittenType.node]
    exact restoresType_named s outer rfl
  | .generic parts arguments, outer => by
    obtain ⟨generics, hmap, htexts⟩ := exists_mapM_typeArgument s arguments
    have hgenerics := (typeArguments_production s (argumentNodes arguments)).trans hmap
    -- One dimension anywhere further out is enough to drop the type arguments.
    cases outer with
    | zero =>
      rw [WrittenType.keptUnder]
      exact restoresType_generic hgenerics htexts
    | succ outer =>
      rw [WrittenType.keptUnder]
      exact restoresType_generic_dropped hgenerics outer
  | .primitive name, outer => by
    rw [WrittenType.keptUnder, WrittenType.node]
    exact restoresType_primitive s name outer
  | .array component count, outer => (component.restores s (count + outer)).array

theorem WrittenArgument.restores (s : Scope) : ∀ a : WrittenArgument,
    s.RestoresArgument a.node a.kept.node
  | .exact type => restoresArgument_exact (type.restores s 0)
  | .wildcard => restoresArgument_wildcard s
  | .upper bound => restoresArgument_bound (by decide) (bound.restores s 0)
  | .lower bound => restoresArgument_bound (by decide) (bound.restores s 0)

theorem exists_mapM_typeArgument (s : Scope) : ∀ arguments : List WrittenArgument,
    ∃ generics, (argumentNodes arguments).mapM s.typeArgument = .ok generics ∧
      generics.map (unspaced ·.text) =
        (argumentNodes (keptArguments arguments)).map (unspaced ·.text)
  | [] => ⟨[], rfl, rfl⟩
  | argument :: rest => by
    obtain ⟨first, hfirst, htext⟩ := argument.restores s
    obtain ⟨others, hothers, htexts⟩ := exists_mapM_typeArgument s rest
    refine ⟨first :: others, ?_, ?_⟩
    · rw [argumentNodes, List.mapM_cons, Lowered.bind_of_ok hfirst, Lowered.bind_of_ok hothers]
      rfl
    · rw [keptArguments, argumentNodes, List.map_cons, List.map_cons, htext, htexts]

end

/-- **Types are written back.**  Wherever its tokens stand, the tree of a written type is lowered,
and spaces aside the type has the text of the tree in which every type with dimensions has lost its
type arguments.  It is an array of as many layers as the tree has dimensions, over the class or the
primitive type that is written. -/
theorem Scope.writtenType_restored {t : WrittenType} {n : Node} (h : n.Moved t.node)
    (limit left : Nat) (place : Span) :
    ∃ type core, (level limit left place).typeRef n = .ok type ∧
      unspaced type.text = unspaced t.kept.node.text ∧
      type.Layered core (n.tokens .dimension).length ∧ t.Names core := by
  obtain ⟨type, core, htype, hnames, hlayered, htext⟩ := t.restores (level limit left place) 0
  have hs := Comparison.Scopes.elsewhere limit left place place
  obtain ⟨moved, hmoved, hsame⟩ := (hs.typeRef (Eq.symm h)).exists_ok htype
  obtain ⟨inner, hinner, hcore⟩ := hlayered.of_mapSpans_eq hsame.symm
  refine ⟨moved, inner, hmoved, ?_, ?_, hnames.of_mapSpans_eq hcore⟩
  · rw [← TypeRef.text_mapSpans, ← hsame, TypeRef.text_mapSpans, htext]
    rfl
  · rw [Comparison.length_tokens (C := .elsewhere) h (by decide)]
    exact hinner

/-- Of `Map<java.util.List<String>[][], ? super Set<?>>` the list loses its type arguments, and with
a dimension behind it the map does. -/
theorem Scope.writtenType_restored_nested :
    let map : WrittenType := .generic ["Map"]
      [.exact (.array (.generic ["java", "util", "List"] [.exact (.named ["String"])]) 2),
        .lower (.generic ["Set"] [.wildcard])]
    (∃ type core, (level 3 3 .fileStart).typeRef map.node.layOut.root = .ok type ∧
      unspaced type.text = "Map<java.util.List[][],?superSet<?>>".toList ∧
      type.Layered core 0 ∧ map.Names core) ∧
    ∃ type core, (level 3 3 .fileStart).typeRef (WrittenType.array map 1).node = .ok type ∧
      unspaced type.text = "Map[]".toList ∧ type.Layered core 1 ∧ map.Names core := by
  intro map
  obtain ⟨type, core, htype, htext, hlayered, hnames⟩ :=
    writtenType_restored (t := map) map.node.moved_layOut 3 3 .fileStart
  obtain ⟨array, core', harray, htext', hlayered', hnames'⟩ :=
    writtenType_restored (t := .array map 1) (Node.moved_refl _) 3 3 .fileStart
  exact ⟨⟨type, core, htype, htext.trans (by decide +kernel), hlayered, hnames⟩,
    array, core', harray, htext'.trans (by decide +kernel), hlayered', hnames'⟩

end GroovyLowering
