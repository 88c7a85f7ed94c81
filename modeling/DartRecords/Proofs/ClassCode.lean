import DartRecords.Proofs.Outcomes
import DartRecords.Proofs.Subtyping
import DartRecords.Proofs.TypeNames

/-!
# Classes as lists of members

Code in which the references to static members that come from default values and from serializers
are marked, and the class of a record as a list of members, so that both what is referred to and
what is declared can be read off (`Code.references`, `ClassCode.staticNames`).  The class that a
struct is known by is of this form (`exists_frozenClass`), and so is that of an enum
(`exists_sealedCode`).
-/

namespace DartRecords.Dart

open Schema (Constant Field Method Module Record RecordMap Ty)

/-! ## Code with references -/

/-- The static members that the expressions of types refer to. -/
inductive StaticName where
  | defaultInstance
  | unknown
  | serializer
  deriving DecidableEq

def StaticName.text : StaticName → String
  | defaultInstance => "defaultInstance"
  | unknown => "unknown"
  | serializer => "serializer"

/-- A reference to a static member of the class of a record, which is known by its key. -/
structure Reference where
  key : String
  member : StaticName
  deriving DecidableEq

/-- A piece of code: a text, or a reference, with the class as it is spelled in the file. -/
inductive CodePiece where
  | text (content : String)
  | reference (target : Reference) (className : String)

def CodePiece.code : CodePiece → String
  | text content => content
  | reference target className => className ++ "." ++ target.member.text

def CodePiece.target? : CodePiece → Option Reference
  | text _ => none
  | reference target _ => some target

/-- Code in which references are marked. -/
abbrev Code := List CodePiece

namespace Code

def text (code : Code) : String := String.join (code.map CodePiece.code)

def references (code : Code) : List Reference := code.filterMap CodePiece.target?

/-- The classes of the references are spelled as in the scope. -/
def SpelledIn (scope : Scope) (code : Code) : Prop :=
  ∀ target className, CodePiece.reference target className ∈ code →
    ∃ r, scope.records.lookup target.key = some r ∧ scope.className r = .ok className

/-- The code refers to these members and to no others, and is spelled as in the scope. -/
structure Refers (scope : Scope) (targets : List Reference) (code : Code) : Prop where
  references : code.references = targets
  spelled : code.SpelledIn scope

/-- The code has the text, too. -/
structure Spells (scope : Scope) (written : String) (targets : List Reference) (code : Code) : Prop
    extends Refers scope targets code where
  text : code.text = written

variable {scope : Scope}

@[simp] theorem text_singleton (content : String) : Code.text [.text content] = content := by
  simp [Code.text, CodePiece.code]

theorem refers_nil (scope : Scope) : Refers scope [] [] :=
  ⟨rfl, fun _ _ h => by cases h⟩

theorem Refers.append {targets others : List Reference} {code rest : Code}
    (h : Refers scope targets code) (hrest : Refers scope others rest) :
    Refers scope (targets ++ others) (code ++ rest) where
  references := by
    rw [Code.references, List.filterMap_append, ← h.references, ← hrest.references]; rfl
  spelled target name hmem := by
    rcases List.mem_append.1 hmem with hmem | hmem
    · exact h.spelled target name hmem
    · exact hrest.spelled target name hmem

theorem spells_text (scope : Scope) (content : String) :
    Spells scope content [] [.text content] where
  references := rfl
  spelled _ _ h := by simp at h
  text := text_singleton content

theorem spells_reference {key className : String} {member : StaticName} {r : Record}
    (hr : scope.records.lookup key = some r) (hclass : scope.className r = .ok className) :
    Spells scope (className ++ "." ++ member.text) [⟨key, member⟩]
      [.reference ⟨key, member⟩ className] where
  references := rfl
  spelled target name h := by
    cases List.mem_singleton.1 h
    exact ⟨r, hr, hclass⟩
  text := by simp [Code.text, CodePiece.code]

theorem Spells.append {first second : String} {targets others : List Reference} {code rest : Code}
    (h : Spells scope first targets code) (hrest : Spells scope second others rest) :
    Spells scope (first ++ second) (targets ++ others) (code ++ rest) where
  toRefers := h.toRefers.append hrest.toRefers
  text := by rw [Code.text, List.map_append, String.join_append, ← h.text, ← hrest.text]; rfl

/-- Code between two texts. -/
theorem Spells.between {written : String} {targets : List Reference} {code : Code}
    (h : Spells scope written targets code) (before after : String) :
    Spells scope (before ++ written ++ after) targets ([.text before] ++ code ++
      [.text after]) := by
  have hall := ((spells_text scope before).append h).append (spells_text scope after)
  rwa [List.nil_append, List.append_nil] at hall

/-- The texts of several items, one after the other. -/
theorem exists_joined {α : Type} {targets : α → List Reference} {items : List α}
    {written : List String}
    (h : List.Forall₂ (fun item text => ∃ code, Spells scope text (targets item) code)
      items written) :
    ∃ code, Spells scope (String.join written) (items.flatMap targets) code := by
  induction h with
  | nil => exact ⟨[], refers_nil scope, rfl⟩
  | cons hfirst _ ih =>
    obtain ⟨first, hfirst⟩ := hfirst
    obtain ⟨rest, hrest⟩ := ih
    rw [String.join_cons, List.flatMap_cons]
    exact ⟨_, hfirst.append hrest⟩

end Code

/-! ## Expressions of types -/

/-- What the serializer of a type refers to. -/
def serializerReferences : Ty → List Reference
  | .primitive _ => []
  | .array item => serializerReferences item
  | .keyedArray item _ _ => serializerReferences item
  | .optional other => serializerReferences other
  | .record key => [⟨key, .serializer⟩]

/-- The static member that is the default value of a record. -/
def defaultMember (r : Record) : StaticName := if r.isStruct then .defaultInstance else .unknown

/-- What the default value of a type refers to. -/
def defaultReferences (records : RecordMap) : Ty → List Reference
  | .record key =>
    match records.lookup key with
    | some r => [⟨key, defaultMember r⟩]
    | none => []
  | _ => []

section Expressions

variable {scope : Scope}

theorem exists_serializerCode {type : Ty} {written : String}
    (h : ((Speller.possible scope).serializer type : Outcomes String) written) :
    ∃ code, Code.Spells scope written (serializerReferences type) code := by
  induction type generalizing written with
  | primitive p =>
    obtain rfl := h
    exact ⟨_, Code.spells_text scope _⟩
  | array item ih =>
    obtain ⟨inner, hinner, rfl⟩ := h
    obtain ⟨code, hcode⟩ := ih hinner
    exact ⟨_, hcode.between _ _⟩
  | keyedArray item path keyType ih _ =>
    obtain ⟨inner, hinner, chain, -, access, -, itemType, -, rfl⟩ := h
    obtain ⟨code, hcode⟩ := ih hinner
    have hkeyed :=
      hcode.between "_soia.Serializers.keyedIterable(\n" (",\n(" ++ itemType ++ " it) => it."
      ++ access ++ ",\ninternal__getKeySpec: \"" ++ chain ++ "\",\n)")
    exact ⟨_, by simpa only [String.append_assoc, serializerReferences] using hkeyed⟩
  | optional other ih =>
    obtain ⟨inner, hinner, rfl⟩ := h
    obtain ⟨code, hcode⟩ := ih hinner
    exact ⟨_, hcode.between _ _⟩
  | record key =>
    obtain ⟨r, hr, name, hname, rfl⟩ := h
    have hr : scope.records.lookup key = some r := record_eq_ok_iff.1 (Outcomes.of_lift hr)
    have hwritten : name ++ ".serializer" = name ++ "." ++ StaticName.serializer.text := by
      rw [String.append_assoc]
      rfl
    rw [hwritten]
    exact ⟨_, Code.spells_reference hr hname⟩

theorem exists_defaultCode {type : Ty} {value : DefaultValue}
    (h : ((Speller.possible scope).defaultValue type : Outcomes DefaultValue) value) :
    ∃ code, Code.Spells scope value.expression (defaultReferences scope.records type) code := by
  cases type with
  | primitive p => exact ⟨_, Code.spells_text scope _⟩
  | array item => exact ⟨_, Code.spells_text scope _⟩
  | keyedArray item path keyType => exact ⟨_, Code.spells_text scope _⟩
  | optional other => exact ⟨_, Code.spells_text scope _⟩
  | record key =>
    obtain ⟨r, hr, frozen, hfrozen, h⟩ := h
    have hr : scope.records.lookup key = some r := record_eq_ok_iff.1 (Outcomes.of_lift hr)
    obtain ⟨r', name, hr', hname, htype⟩ := spell_record_eq_ok.1 hfrozen
    obtain rfl := Option.some.inj (hr.symm.trans hr')
    have hvalue : value.expression = name ++ "." ++ (defaultMember r).text := by
      cases hkind : r.isStruct with
      | true =>
        rw [recordType_of_frozen hkind (.inl rfl)] at htype
        rw [if_pos hkind] at h
        obtain rfl := Except.ok.inj htype
        obtain rfl := h
        rw [defaultMember, if_pos hkind, String.append_assoc]
        rfl
      | false =>
        rw [recordType_of_enum hkind (by decide)] at htype
        rw [if_neg (by simp [hkind])] at h
        obtain rfl := Except.ok.inj htype
        obtain rfl := h
        rw [defaultMember, if_neg (by simp [hkind]), String.append_assoc]
        rfl
    rw [hvalue, defaultReferences, hr]
    exact ⟨_, Code.spells_reference hr hname⟩

end Expressions

/-! ## Members of classes -/

/-- A member of the class of a record. -/
inductive ClassMember where
  | property (type name : String)
  /-- A property that is kept as an optional value behind a getter. -/
  | recursiveProperty (type name : String) (default : Code)
  | unrecognizedFields (type : String)
  | factory (type : String) (parameters arguments : List String)
  | constructor (type : String) (formals : List String)
  | staticValue (type name : String) (value : Code)
  | staticMethod (type name parameters : String) (body : Code)
  | method (annotations : List String) (type name body : String)
  | getter (type name : String)
  /-- An empty line. -/
  | gap

namespace ClassMember

/-- The Dart code of a member. -/
def text : ClassMember → String
  | property type name => "final " ++ type ++ " " ++ name ++ ";\n"
  | recursiveProperty type name default =>
    "final " ++ type ++ "? _rec_" ++ name ++ ";\n" ++ "@_core.override\n" ++ type ++ " get " ++ name
      ++ " => _rec_" ++ name ++ " ?? " ++ default.text ++ ";\n"
  | unrecognizedFields type => "_soia.UnrecognizedFields<" ++ type ++ ">? _unrecognizedFields;\n"
  | factory type parameters arguments =>
    "factory " ++ type ++ "(" ++ String.join parameters ++ ") => " ++ type ++ "._(\n"
      ++ String.join arguments ++ ");\n"
  | constructor type formals => type ++ "._(\n" ++ String.join formals ++ ");\n"
  | staticValue type name value => "static " ++ type ++ " " ++ name ++ " = " ++ value.text ++ ";\n"
  | staticMethod type name parameters body =>
    "static " ++ type ++ " " ++ name ++ "(" ++ parameters ++ ") => " ++ body.text ++ ";\n"
  | method annotations type name body =>
    String.join annotations ++ type ++ " " ++ name ++ "() => " ++ body ++ ";\n"
  | getter type name => type ++ " get " ++ name ++ ";\n"
  | gap => "\n"

@[simp] theorem text_recursiveProperty (type name : String) (default : Code) :
    (recursiveProperty type name default).text =
      "final " ++ type ++ "? _rec_" ++ name ++ ";\n" ++ "@_core.override\n" ++ type ++
        " get " ++ name
        ++ " => _rec_" ++ name ++ " ?? " ++ default.text ++ ";\n" := rfl

@[simp] theorem text_unrecognizedFields (type : String) :
    (unrecognizedFields type).text = "_soia.UnrecognizedFields<" ++ type ++
      ">? _unrecognizedFields;\n" := rfl

@[simp] theorem text_factory (type : String) (parameters arguments : List String) :
    (factory type parameters arguments).text =
      "factory " ++ type ++ "(" ++ String.join parameters ++ ") => " ++ type ++ "._(\n"
        ++ String.join arguments ++ ");\n" := rfl

@[simp] theorem text_constructor (type : String) (formals : List String) :
    (constructor type formals).text = type ++ "._(\n" ++ String.join formals ++ ");\n" := rfl

@[simp] theorem text_staticValue (type name : String) (value : Code) :
    (staticValue type name value).text =
      "static " ++ type ++ " " ++ name ++ " = " ++ value.text ++ ";\n" := rfl

@[simp] theorem text_staticMethod (type name parameters : String) (body : Code) :
    (staticMethod type name parameters body).text =
      "static " ++ type ++ " " ++ name ++ "(" ++ parameters ++ ") => " ++ body.text ++ ";\n" := rfl

@[simp] theorem text_method (annotations : List String) (type name body : String) :
    (method annotations type name body).text =
      String.join annotations ++ type ++ " " ++ name ++ "() => " ++ body ++ ";\n" := rfl

@[simp] theorem text_getter (type name : String) :
    (getter type name).text = type ++ " get " ++ name ++ ";\n" := rfl

@[simp] theorem text_gap : gap.text = "\n" := rfl

/-- The name of a static member. -/
def staticName? : ClassMember → Option String
  | staticValue _ name _ => some name
  | staticMethod _ name _ _ => some name
  | _ => none

/-- The code in a member that comes from the expressions of types. -/
def code : ClassMember → Code
  | recursiveProperty _ _ default => default
  | staticValue _ _ value => value
  | staticMethod _ _ _ body => body
  | _ => []

end ClassMember

/-- The code of a class. -/
structure ClassCode where
  keyword : String
  name : String
  /-- The class that it implements, if there is one. -/
  parent : Option String
  members : List ClassMember

namespace ClassCode

def text (c : ClassCode) : String :=
  TypeDeclaration.header c.keyword c.name c.parent ++ " \x7b\n"
    ++ String.join (c.members.map ClassMember.text) ++ "\x7d\n\n"

/-- The names of the static members that the class declares. -/
def staticNames (c : ClassCode) : List String := c.members.filterMap ClassMember.staticName?

/-- The code in the class that comes from the expressions of types. -/
def code (c : ClassCode) : Code := c.members.flatMap ClassMember.code

end ClassCode

/-! ## Structs -/

/-- What the default value of a field refers to. -/
def fieldReferences (records : RecordMap) (f : Field) : List Reference :=
  (f.type.map (defaultReferences records)).getD []

section Struct

variable {scope : Scope} {f : Field}

theorem exists_defaultArgument {written : String}
    (h : (Struct.defaultArgument (Speller.possible scope) f : Outcomes String) written) :
    ∃ code, Code.Spells scope written (fieldReferences scope.records f) code := by
  obtain ⟨type, htype, default, hdefault, rfl⟩ := h
  rw [fieldReferences, Outcomes.of_resolved htype]
  exact exists_defaultCode hdefault

/-- A field that contains its own record has no value in the default instance. -/
theorem exists_defaultInstanceArgument {written : String}
    (h : (Struct.defaultInstanceArgument (Speller.possible scope) f : Outcomes String) written) :
    ∃ code, Code.Spells scope written (if f.isHardRecursive then [] else fieldReferences
      scope.records f)
      code := by
  rw [Struct.defaultInstanceArgument] at h
  split at h
  · next hrecursive =>
    rw [if_pos hrecursive]
    exact ⟨_, Code.spells_text scope _⟩
  · next hrecursive =>
    rw [if_neg hrecursive]
    exact exists_defaultArgument h

/-- A call with arguments on lines of their own, one for each field. -/
theorem exists_callCode {step : Field → Outcomes String} {targets : Field → List Reference}
    {fields : List Field} {written : List String}
    (h : List.Forall₂ (fun f text => step f text) fields written)
    (hstep : ∀ f text, step f text → ∃ code, Code.Spells scope text (targets f) code)
    (start : String) :
    ∃ code, Code.Spells scope (start ++ String.join (written.map Struct.asLine) ++ ")")
      (fields.flatMap targets) code := by
  have hline : ∀ f text, step f text →
      ∃ code, Code.Spells scope (Struct.asLine text) (targets f) code := by
    intro f text hf
    obtain ⟨code, hcode⟩ := hstep f text hf
    have hall := hcode.append (Code.spells_text scope ",\n")
    rw [List.append_nil] at hall
    exact ⟨_, hall⟩
  have hlines : List.Forall₂ (fun f line => ∃ code, Code.Spells scope line (targets f) code) fields
      (written.map Struct.asLine) := List.forall₂_map_right_iff.2 (h.imp hline)
  obtain ⟨code, hcode⟩ := Code.exists_joined hlines
  exact ⟨_, hcode.between start ")"⟩

/-- A field that contains its own record has its default value behind the getter. -/
theorem exists_frozenProperty {written : String}
    (h : (Struct.frozenProperty (Speller.possible scope) f : Outcomes String) written) :
    ∃ member : ClassMember, member.text = written ∧ member.staticName? = none ∧
      member.code.Refers scope
        (if f.isHardRecursive then fieldReferences scope.records f else []) := by
  obtain ⟨name, -, type, htype, spelt, -, h⟩ := h
  split at h
  · next hrecursive =>
    obtain ⟨default, hdefault, rfl⟩ := h
    obtain ⟨code, hcode⟩ := exists_defaultCode hdefault
    refine ⟨.recursiveProperty spelt name code, ?_, rfl, ?_⟩
    · rw [ClassMember.text_recursiveProperty, hcode.text]
    · rw [if_pos hrecursive, fieldReferences, Outcomes.of_resolved htype]
      exact hcode.toRefers
  · next hrecursive =>
    obtain rfl := h
    rw [if_neg hrecursive]
    exact ⟨.property spelt name, rfl, rfl, Code.refers_nil scope⟩

/-- The properties of the frozen class. -/
theorem exists_properties {fields : List Field} {written : List String}
    (h : List.Forall₂
      (fun f text => (Struct.frozenProperty (Speller.possible scope) f : Outcomes String) text)
      fields written) :
    ∃ members : List ClassMember, members.map ClassMember.text = written ∧
      members.filterMap ClassMember.staticName? = [] ∧
      Code.Refers scope
        (fields.flatMap fun f => if f.isHardRecursive then fieldReferences scope.records f else [])
        (members.flatMap ClassMember.code) := by
  induction h with
  | nil => exact ⟨[], rfl, rfl, Code.refers_nil scope⟩
  | cons hfirst _ ih =>
    obtain ⟨first, rfl, hstatic, hrefers⟩ := exists_frozenProperty hfirst
    obtain ⟨rest, rfl, hrestStatic, hrest⟩ := ih
    refine ⟨first :: rest, rfl, ?_, hrefers.append hrest⟩
    rw [List.filterMap_cons, hstatic, hrestStatic]

/-- The members of the frozen class. -/
def frozenMembers (name : String) (properties : List ClassMember)
    (parameters frozenArguments formals ownFields : List String) (instanceCode defaultCode : Code) :
    List ClassMember :=
  properties ++
    [.unrecognizedFields name, .gap,
     .factory name (Struct.inBraces parameters) frozenArguments, .gap,
     .constructor name formals, .gap,
     .staticValue "final" "defaultInstance" instanceCode, .gap,
     .staticMethod (name ++ "_mutable") "mutable" "" defaultCode, .gap,
     .method ["@_core.deprecated\n", "@_core.override\n"] name "toFrozen" "this", .gap,
     .method [] (name ++ "_mutable") "toMutable"
       (name ++ "_mutable._(\n" ++ String.join ownFields ++ ")")]

theorem code_frozenMembers (name : String) (properties : List ClassMember)
    (parameters frozenArguments formals ownFields : List String) (instanceCode defaultCode : Code) :
    (frozenMembers name properties parameters frozenArguments formals ownFields instanceCode
      defaultCode).flatMap ClassMember.code =
      properties.flatMap ClassMember.code ++ (instanceCode ++ defaultCode) := by
  rw [frozenMembers, List.flatMap_append]
  simp [ClassMember.code]

theorem text_frozenClass (name : String) (properties : List ClassMember)
    (parameters frozenArguments formals ownFields : List String) (instanceCode defaultCode : Code) :
    ClassCode.text ⟨"final class", name, some (name ++ "_orMutable"),
      frozenMembers name properties parameters frozenArguments formals ownFields instanceCode
        defaultCode⟩ =
    "final class " ++ name ++ " implements " ++ name ++ "_orMutable \x7b\n"
      ++ String.join (properties.map ClassMember.text)
      ++ "_soia.UnrecognizedFields<" ++ name ++ ">? _unrecognizedFields;\n\n"
      ++ "factory " ++ name ++ "(" ++ String.join (Struct.inBraces parameters) ++ ") => "
        ++ name ++ "._(\n"
      ++ String.join frozenArguments ++ ");\n\n"
      ++ name ++ "._(\n" ++ String.join formals ++ ");\n\n"
      ++ "static final defaultInstance = " ++ instanceCode.text ++ ";\n\n"
      ++ "static " ++ name ++ "_mutable mutable() => " ++ defaultCode.text ++ ";\n\n"
      ++ "@_core.deprecated\n" ++ "@_core.override\n" ++ name ++ " toFrozen() => this;\n\n"
      ++ name ++ "_mutable toMutable() => " ++ name ++ "_mutable._(\n" ++ String.join ownFields
        ++ ");\n"
      ++ "\x7d\n\n" := by
  have hheader : "final class" ++ " " = "final class " := by decide
  have hparent : "_orMutable" ++ " \x7b\n" = "_orMutable \x7b\n" := by decide
  have hunrecognized : ">? _unrecognizedFields;\n" ++ "\n" =
      ">? _unrecognizedFields;\n\n" := by decide
  have hclose : ")" ++ ";\n" = ");\n" := by decide
  have hgap : ";\n" ++ "\n" = ";\n\n" := by decide
  have hend : ")" ++ (";\n" ++ "\n") = ");\n\n" := by decide
  have hvalue : "static " ++ ("final" ++ (" " ++ ("defaultInstance" ++ " = "))) =
    "static final defaultInstance = " := by decide
  have hmutable : "_mutable" ++ (" " ++ ("mutable" ++ ("(" ++ ") => "))) =
      "_mutable mutable() => " := by
    decide
  have hfrozen : " " ++ ("toFrozen" ++ ("() => " ++ ("this" ++ (";\n" ++ "\n")))) =
    " toFrozen() => this;\n\n" := by decide
  have hthaw : "_mutable" ++ (" " ++ ("toMutable" ++ "() => ")) =
      "_mutable toMutable() => " := by decide
  delta ClassCode.text frozenMembers
  simp only [TypeDeclaration.header_some, List.map_append, List.map_cons, List.map_nil,
    String.join_append, String.join_cons, String.join_nil, ClassMember.text_unrecognizedFields,
    ClassMember.text_factory, ClassMember.text_constructor, ClassMember.text_staticValue,
    ClassMember.text_staticMethod, ClassMember.text_method, ClassMember.text_gap,
    String.append_assoc, String.append_empty, String.empty_append, split_append hheader,
    split_append hparent, split_append hunrecognized, split_append hclose, split_append hgap,
    split_append hend, split_append hvalue, split_append hmutable,
    split_append hfrozen, split_append hthaw]

/-- The frozen class refers to the default values of the fields. -/
theorem exists_frozenClass {name : String} {fields : List Field} {code : List String}
    (h : (Struct.frozenClass (Speller.possible scope) name fields : Outcomes (List String)) code) :
    ∃ c : ClassCode, c.name = name ∧ c.text = String.join code ∧
      c.staticNames = ["defaultInstance", "mutable"] ∧ c.code.SpelledIn scope ∧
      ∀ target, target ∈ c.code.references ↔
        target ∈ fields.flatMap (fieldReferences scope.records) := by
  obtain ⟨properties, hproperties, parameters, -, frozenArguments, -, formals, -, instanceArguments,
    hinstance, defaultArguments, hdefault, ownFields, -, rfl⟩ := h
  obtain ⟨members, rfl, hstatic, hmembers⟩ := exists_properties (Outcomes.of_mapM hproperties)
  obtain ⟨instanceCode, hinstance⟩ := exists_callCode (Outcomes.of_mapM hinstance)
    (fun _ _ => exists_defaultInstanceArgument) (name ++ "._(\n")
  obtain ⟨defaultCode, hdefault⟩ := exists_callCode (Outcomes.of_mapM hdefault)
    (fun _ _ => exists_defaultArgument) (name ++ "_mutable._(\n")
  have hrefers := hmembers.append (hinstance.toRefers.append hdefault.toRefers)
  rw [← code_frozenMembers name members parameters frozenArguments formals ownFields] at hrefers
  refine ⟨⟨"final class", name, some (name ++ "_orMutable"), frozenMembers name members parameters
    frozenArguments formals ownFields instanceCode defaultCode⟩, rfl, ?_, ?_, hrefers.spelled,
    fun target => ?_⟩
  · rw [text_frozenClass, hinstance.text, hdefault.text]
    have hend : ")" ++ ";\n\n" = ");\n\n" := by decide
    simp only [String.join_append, String.join_cons, String.join_nil, String.append_assoc,
      String.append_empty, ← split_append hend]
  · rw [ClassCode.staticNames, frozenMembers, List.filterMap_append, hstatic]
    rfl
  · -- The last of the three parts is there for every field.
    rw [ClassCode.code, hrefers.references, List.mem_append, List.mem_append]
    refine ⟨?_, fun h => .inr (.inr h)⟩
    simp only [List.mem_flatMap]
    rintro (⟨f, hf, htarget⟩ | ⟨f, hf, htarget⟩ | htarget)
    · split at htarget
      · exact ⟨f, hf, htarget⟩
      · cases htarget
    · split at htarget
      · cases htarget
      · exact ⟨f, hf, htarget⟩
    · exact htarget

end Struct

/-! ## Enums -/

section Enum

variable {scope : Scope} {name : String} {f : Field}

/-- None of the members is a static one called `serializer`, and none refers to anything. -/
structure AvoidsSerializer (scope : Scope) (members : List ClassMember) : Prop where
  name : "serializer" ∉ members.filterMap ClassMember.staticName?
  code : Code.Refers scope [] (members.flatMap ClassMember.code)

theorem AvoidsSerializer.append {members others : List ClassMember}
    (h : AvoidsSerializer scope members) (hothers : AvoidsSerializer scope others) :
    AvoidsSerializer scope (members ++ others) where
  name := by
    rw [List.filterMap_append, List.mem_append]
    exact fun hmem => hmem.elim h.name hothers.name
  code := by
    rw [List.flatMap_append]
    exact h.code.append hothers.code

theorem avoidsSerializer_nil : AvoidsSerializer scope [] := ⟨by simp, Code.refers_nil scope⟩

theorem avoidsSerializer_gap : AvoidsSerializer scope [.gap] := ⟨by decide, Code.refers_nil scope⟩

theorem avoidsSerializer_getter (type name : String) : AvoidsSerializer scope [.getter type name] :=
  ⟨by simp [ClassMember.staticName?], Code.refers_nil scope⟩

theorem avoidsSerializer_staticValue {type name : String} (hname : name ≠ "serializer")
    (value : String) :
    AvoidsSerializer scope [.staticValue type name [.text value]] :=
  ⟨by simp [ClassMember.staticName?, hname.symm], (Code.spells_text scope value).toRefers⟩

/-- A factory, with an empty line after it. -/
theorem avoidsSerializer_staticMethod {start base : String} (hstart : start.toList.head? ≠ some 's')
    (hne : start ≠ "") (type parameters body : String) :
    AvoidsSerializer scope [.staticMethod type (start ++ base) parameters [.text body], .gap] := by
  refine ⟨?_, (Code.spells_text scope body).toRefers⟩
  have hname : start ++ base ≠ "serializer" := by
    intro hname
    have hhead := congrArg (fun text => text.toList.head?) hname
    rw [String.toList_append, List.head?_append_of_ne_nil _ (by simpa using hne)] at hhead
    exact hstart hhead
  simp [ClassMember.staticName?, hname.symm]

theorem exists_constantMember {written : String}
    (h : (Enum.constantMember (Speller.possible scope) name f : Outcomes String) written) :
    ∃ members : List ClassMember, String.join (members.map ClassMember.text) = written ∧
      AvoidsSerializer scope members := by
  obtain ⟨variant, hvariant, option, -, rfl⟩ := h
  have hname : variant ≠ "serializer" := by
    rintro rfl
    exact hvariant (by decide)
  refine ⟨[.staticValue ("const " ++ name) variant [.text (option ++ "._()")]], ?_,
    avoidsSerializer_staticValue hname _⟩
  have hconst : "static " ++ "const " = "static const " := by decide
  have hend : "._()" ++ ";\n" = "._();\n" := by decide
  simp only [List.map_cons, List.map_nil, String.join_cons, String.join_nil, String.append_empty,
    ClassMember.text_staticValue, Code.text_singleton, String.append_assoc, hend,
    split_append hconst]

/-- The factory for a value. -/
theorem text_wrapMember (name base initializer option frozen : String) :
    String.join ([ClassMember.staticMethod name ("wrap" ++ base) (initializer ++ " value")
      [.text (option ++ "._(" ++ frozen ++ ")")], .gap].map ClassMember.text) =
      "static " ++ name ++ " wrap" ++ base ++ "(" ++ initializer ++ " value) => " ++ option ++ "._("
        ++ frozen ++ ");\n\n" := by
  have hwrap : " " ++ "wrap" = " wrap" := by decide
  have hvalue : " value" ++ ") => " = " value) => " := by decide
  have hend : ")" ++ (";\n" ++ "\n") = ");\n\n" := by decide
  simp only [List.map_cons, List.map_nil, String.join_cons, String.join_nil, String.append_empty,
    ClassMember.text_staticMethod, ClassMember.text_gap, Code.text_singleton,
    String.append_assoc, hend, split_append hwrap, split_append hvalue]

/-- The factory for the fields of a struct. -/
theorem text_createMember (name base option structName : String)
    (parameters arguments : List String) :
    String.join ([ClassMember.staticMethod name ("create" ++ base) (String.join parameters)
      [.text (option ++ "._(" ++ structName ++ "(\n" ++ String.join arguments ++ "))")], .gap].map
        ClassMember.text) =
      String.join (["static " ++ name ++ " create" ++ base ++ "("] ++ parameters
        ++ [") => " ++ option ++ "._(" ++ structName ++ "(\n"] ++ arguments ++ ["));\n\n"]) := by
  have hcreate : " " ++ "create" = " create" := by decide
  have hend : "))" ++ (";\n" ++ "\n") = "));\n\n" := by decide
  simp only [List.map_cons, List.map_nil, String.join_append, String.join_cons, String.join_nil,
    String.append_empty, ClassMember.text_staticMethod, ClassMember.text_gap, Code.text_singleton,
    String.append_assoc, hend, split_append hcreate]

theorem exists_factoryMembers {code : List String}
    (h : (Enum.factories (Speller.possible scope) name f : Outcomes (List String)) code) :
    ∃ members : List ClassMember, String.join (members.map ClassMember.text) = String.join code ∧
      AvoidsSerializer scope members := by
  obtain ⟨option, -, base, -, type, -, initializer, -, frozen, -, h⟩ := h
  have hwrap := @avoidsSerializer_staticMethod scope "wrap" base (by decide) (by decide) name
    (initializer ++ " value") (option ++ "._(" ++ frozen ++ ")")
  have halone : ∃ members : List ClassMember, String.join (members.map ClassMember.text) =
      String.join ["static " ++ name ++ " wrap" ++ base ++ "(" ++ initializer ++
        " value) => " ++ option
        ++ "._(" ++ frozen ++ ");\n\n"] ∧ AvoidsSerializer scope members :=
    ⟨_, by rw [text_wrapMember, String.join_cons, String.join_nil, String.append_empty], hwrap⟩
  cases type with
  | record key =>
    obtain ⟨record, -, h⟩ := h
    split at h
    · obtain ⟨create, ⟨structName, -, parameters, -, arguments, -, rfl⟩, rfl⟩ := h
      have hcreate :=
        @avoidsSerializer_staticMethod scope "create" base (by decide) (by decide) name
        (String.join (Struct.inBraces parameters))
        (option ++ "._(" ++ structName ++ "(\n" ++ String.join arguments ++ "))")
      refine ⟨_, ?_, hwrap.append hcreate⟩
      rw [List.map_append, String.join_append, text_wrapMember, text_createMember, String.join_cons]
    · obtain rfl := h
      exact halone
  | primitive p =>
    obtain rfl := h
    exact halone
  | array item =>
    obtain rfl := h
    exact halone
  | keyedArray item path keyType =>
    obtain rfl := h
    exact halone
  | optional other =>
    obtain rfl := h
    exact halone

/-- The members of several variants, one after the other. -/
theorem exists_variantMembers {β : Type} {step : Field → β → Prop} {codeText : β → String}
    {fields : List Field} {codes : List β} (h : List.Forall₂ step fields codes)
    (hstep : ∀ f code, step f code → ∃ members : List ClassMember,
      String.join (members.map ClassMember.text) = codeText code ∧ AvoidsSerializer scope members) :
    ∃ members : List ClassMember,
      String.join (members.map ClassMember.text) = String.join (codes.map codeText) ∧
        AvoidsSerializer scope members := by
  induction h with
  | nil => exact ⟨[], rfl, avoidsSerializer_nil⟩
  | cons hfirst _ ih =>
    obtain ⟨first, hfirstText, hfirst⟩ := hstep _ _ hfirst
    obtain ⟨rest, hrestText, hrest⟩ := ih
    refine ⟨first ++ rest, ?_, hfirst.append hrest⟩
    rw [List.map_append, String.join_append, hfirstText, hrestText, List.map_cons, String.join_cons]

/-- The sealed class of an enum refers to nothing, and declares the unknown value but no
serializer. -/
theorem exists_sealedCode {fields : List Field} {code : List String}
    (h : (Enum.sealedClass (Speller.possible scope) name fields : Outcomes (List String)) code) :
    ∃ c : ClassCode, c.name = name ∧ c.text = String.join code ∧ "unknown" ∈ c.staticNames ∧
      "serializer" ∉ c.staticNames ∧ c.code.Refers scope [] := by
  obtain ⟨constantTexts, hconstants, factoryCodes, hfactories, rfl⟩ := h
  obtain ⟨constants, hconstantText, hconstants⟩ :=
    exists_variantMembers (Outcomes.of_mapM hconstants) fun _ _ => exists_constantMember
  obtain ⟨factories, hfactoryText, hfactories⟩ :=
    exists_variantMembers (Outcomes.of_mapM hfactories) fun _ _ => exists_factoryMembers
  obtain ⟨gaps, hgapText, hgaps⟩ : ∃ gaps : List ClassMember,
      String.join (gaps.map ClassMember.text) =
        String.join (if (fields.filter Enum.isConstant).isEmpty then [] else ["\n"]) ∧
      AvoidsSerializer scope gaps := by
    split
    · exact ⟨[], rfl, avoidsSerializer_nil⟩
    · exact ⟨[.gap], rfl, avoidsSerializer_gap⟩
  have hunknown := @avoidsSerializer_staticValue scope ("const " ++ name) "unknown" (by decide)
    (name ++ "_unknown._()")
  have hall := hunknown.append (((hconstants.append hgaps).append hfactories).append
    (avoidsSerializer_getter (name ++ "_kind") "kind"))
  refine ⟨⟨"sealed class", name, none, _⟩, rfl, ?_, List.mem_cons_self, hall.name, hall.code⟩
  have hheader : "sealed class" ++ " " = "sealed class " := by decide
  have hconst : "static " ++ "const " = "static const " := by decide
  have hvalue : " " ++ ("unknown" ++ " = ") = " unknown = " := by decide
  have hend : "_unknown._()" ++ ";\n" = "_unknown._();\n" := by decide
  have hkind : "_kind" ++ (" get " ++ ("kind" ++ ";\n")) = "_kind get kind;\n" := by decide
  rw [List.map_id'] at hconstantText
  rw [join_map_join] at hfactoryText
  delta ClassCode.text
  simp only [TypeDeclaration.header_none, List.map_append, List.map_cons, List.map_nil,
    String.join_append, String.join_cons, String.join_nil, ClassMember.text_staticValue,
    ClassMember.text_getter, Code.text_singleton, hconstantText, hgapText, hfactoryText,
    String.append_assoc, String.append_empty, split_append hheader, split_append hconst,
    split_append hvalue, split_append hend, split_append hkind]

end Enum

end DartRecords.Dart
