import DartRecords.Proofs.Templates
import DartRecords.Proofs.WellFormed

/-!
# Emitted code is steady

For a well-formed document, every part of a file is there, and layout gets over it without any
change of the stack: the classes of a record, the descriptor of a method and the declaration of a
constant are `Declared`.  There is one lemma for each part, along the definitions.  The serializer
of a type may have several lines; it is `Contained`, by induction on the type.
-/

namespace DartRecords.Dart

open Layout
open Naming (IsWord)
open Schema (Constant Field Method Module Record Ty)

variable {scope : Scope}

/-! ## Expressions over several lines -/

/-- A call with its arguments on lines of their own. -/
theorem contained_call {head arguments : String} (hhead : Opens .paren head)
    (harguments : Steady arguments) : Contained (head ++ arguments ++ ")") := by
  intro stack ending last hend
  have hfirst : (")" ++ ending).toList.head? = some ')' := by
    rw [String.toList_append, List.head?_append]
    rfl
  rw [String.append_assoc]
  refine ((hhead stack).append (harguments _ (settled_cons rfl stack))).append ?_
  exact lays_closing hfirst rfl rfl (lineEnd?_append (by decide) hend) stack

theorem yields_serializer (hscope : WellFormedScope scope) {type : Ty}
    (h : WellFormedType scope.records type) :
    Yields ((Speller.plain scope).serializer type) Contained := by
  have hlast : ",\n)" = ",\n" ++ ")" := by decide
  induction type with
  | primitive p =>
    have hname : Flat p.name := by cases p <;> decide
    exact Yields.pure (Inline.append (by decide) hname).contained
  | record key =>
    refine (Yields.lift (yields_record hscope h List.mem_cons_self)).bind fun r hr => ?_
    refine (yields_className hr).bind fun name hname => ?_
    exact Yields.pure (hname.toInline.append (by decide)).contained
  | array item ih =>
    refine (ih ⟨h.names, h.found⟩).bind fun inner hinner => Yields.pure ?_
    rw [hlast, ← String.append_assoc, @String.append_assoc _ inner]
    exact contained_call (opens_literal (by decide) rfl rfl) (hinner.steady (by decide))
  | optional other ih =>
    refine (ih ⟨h.names, h.found⟩).bind fun inner hinner => Yields.pure ?_
    rw [hlast, ← String.append_assoc, @String.append_assoc _ inner]
    exact contained_call (opens_literal (by decide) rfl rfl) (hinner.steady (by decide))
  | keyedArray item path keyType ihItem _ =>
    refine (ihItem h.item_of_keyed).bind fun inner hinner => ?_
    refine (Yields.lift (Yields.ofValue (flat_joinTexts h.path_of_keyed (by decide)))).bind
      fun chain hchain => ?_
    refine (yields_keyAccess h.path_of_keyed scope).bind fun access haccess => ?_
    refine (yields_dartType hscope h.item_of_keyed (by decide) none).bind
      fun itemType hitemType => ?_
    have htext : "_soia.Serializers.keyedIterable(\n" ++ inner ++ ",\n(" ++ itemType ++
        " it) => it."
          ++ access ++ ",\ninternal__getKeySpec: \"" ++ chain ++ "\",\n)" =
        "_soia.Serializers.keyedIterable(\n" ++
        ((inner ++ ",\n") ++ ("(" ++ itemType ++ " it) => it."
          ++ access ++ ",\n") ++ ("internal__getKeySpec: \"" ++ chain ++ "\",\n")) ++ ")" := by
      have hopen : ",\n(" = ",\n" ++ "(" := by decide
      have hspec : ",\ninternal__getKeySpec: \"" = ",\n" ++ "internal__getKeySpec: \"" := by decide
      have hclose : "\",\n)" = "\",\n" ++ ")" := by decide
      rw [hopen, hspec, hclose]
      simp only [String.append_assoc]
    refine Yields.pure ?_
    rw [htext]
    refine contained_call (opens_literal (by decide) rfl rfl)
      (((hinner.steady (by decide)).append ?_).append ?_)
    · exact steady_inline
        (((Inline.append (by decide) hitemType.flat).append (by decide)).append haccess)
        (by decide)
    · exact steady_inline (Inline.append (by decide) hchain) (by decide)

/-! ## Structs -/

section Struct

variable {f : Field}

theorem yields_getter (hscope : WellFormedScope scope) (hf : TypedField scope.records f) :
    Yields (Struct.getter (Speller.plain scope) f) Steady := by
  refine hf.bind_resolved fun t ht => ?_
  refine (yields_dartType hscope ht (by decide) _).bind fun type htype => ?_
  refine (yields_fieldName hf.name scope).bind fun name hname => Yields.pure ?_
  exact steady_inline ((htype.toInline.append (by decide)).append hname.solid.flat) (by decide)

theorem yields_frozenProperty (hscope : WellFormedScope scope) (hf : TypedField scope.records f) :
    Yields (Struct.frozenProperty (Speller.plain scope) f) Steady := by
  refine (yields_fieldName hf.name scope).bind fun name hname => ?_
  refine hf.bind_resolved fun t ht => ?_
  have hname := hname.solid.flat
  refine (yields_dartType hscope ht (by decide) _).bind fun type htype => ?_
  split
  · refine (yields_defaultValue hscope ht).bind fun default hdefault => Yields.pure ?_
    have htext : "final " ++ type ++ "? _rec_" ++ name ++ ";\n" ++ "@_core.override\n" ++ type
          ++ " get " ++ name ++ " => _rec_" ++ name ++ " ?? " ++ default.expression ++ ";\n" =
        ("final " ++ type ++ "? _rec_" ++ name ++ ";\n") ++ "@_core.override\n" ++ (type ++ " get "
          ++ name ++ " => _rec_" ++ name ++ " ?? " ++ default.expression ++ ";\n") := by
      simp only [String.append_assoc]
    rw [htext]
    refine (Steady.append ?_ (steady_literal (by decide) (by decide))).append ?_
    · exact steady_inline (((Inline.append (by decide) htype.flat).append (by decide)).append hname)
        (by decide)
    · exact steady_inline ((((((htype.toInline.append (by decide)).append hname).append
        (by decide)).append hname).append (by decide)).append hdefault.flat) (by decide)
  · refine Yields.pure (steady_inline ?_ (by decide))
    exact ((Inline.append (by decide) htype.flat).append (by decide)).append hname

theorem yields_parameter (hscope : WellFormedScope scope) (hf : TypedField scope.records f) :
    Yields (Struct.parameter (Speller.plain scope) f) Steady := by
  refine hf.bind_resolved fun t ht => ?_
  refine (yields_dartType hscope ht (by decide) _).bind fun type htype => ?_
  refine (yields_fieldName hf.name scope).bind fun name hname => Yields.pure ?_
  exact steady_inline (((Inline.append (by decide) htype.flat).append (by decide)).append
    hname.solid.flat) (by decide)

theorem yields_frozenArgument (hscope : WellFormedScope scope) (hf : TypedField scope.records f) :
    Yields (Struct.frozenArgument (Speller.plain scope) f) Steady := by
  refine (yields_fieldName hf.name scope).bind fun name hname => ?_
  refine hf.bind_resolved fun t ht => ?_
  refine (yields_toFrozen hscope ht hname.solid.toInline).bind fun frozen hfrozen => ?_
  exact Yields.pure (steady_inline hfrozen (by decide))

theorem yields_frozenFormal (hf : WellFormedField scope.records f) :
    Yields (Struct.frozenFormal (Speller.plain scope) f) Steady := by
  refine (yields_fieldName hf.name scope).bind fun name hname => Yields.pure ?_
  refine steady_inline (Inline.append ?_ hname.solid.flat) (by decide)
  split
  · decide
  · decide

theorem yields_defaultArgument (hscope : WellFormedScope scope) (hf : TypedField scope.records f) :
    Yields (Struct.defaultArgument (Speller.plain scope) f) Inline := by
  refine hf.bind_resolved fun t ht => ?_
  refine (yields_defaultValue hscope ht).bind fun default hdefault => ?_
  exact Yields.pure hdefault

theorem yields_defaultInstanceArgument (hscope : WellFormedScope scope)
    (hf : TypedField scope.records f) :
    Yields (Struct.defaultInstanceArgument (Speller.plain scope) f) Inline := by
  rw [Struct.defaultInstanceArgument]
  split
  · exact Yields.pure (by decide)
  · exact yields_defaultArgument hscope hf

theorem yields_ownField (hf : WellFormedField scope.records f) :
    Yields (Struct.ownField (Speller.plain scope) f) Steady := by
  refine (yields_fieldName hf.name scope).bind fun name hname => Yields.pure ?_
  exact steady_inline (Inline.append (by decide) hname.solid.flat) (by decide)

theorem yields_mutableProperty (hscope : WellFormedScope scope) (hf : TypedField scope.records f) :
    Yields (Struct.mutableProperty (Speller.plain scope) f) Steady := by
  refine hf.bind_resolved fun t ht => ?_
  refine (yields_dartType hscope ht (by decide) _).bind fun type htype => ?_
  refine (yields_fieldName hf.name scope).bind fun name hname => Yields.pure ?_
  have htext : "@_core.override\n" ++ type ++ " " ++ name ++ ";\n" =
      "@_core.override\n" ++ (type ++ " " ++ name ++ ";\n") := by
    simp only [String.append_assoc]
  rw [htext]
  refine (steady_literal (by decide) (by decide)).append ?_
  exact steady_inline ((htype.toInline.append (by decide)).append hname.solid.flat) (by decide)

theorem yields_namedArgument (hf : WellFormedField scope.records f) :
    Yields (Struct.namedArgument (Speller.plain scope) f) Steady := by
  refine (yields_fieldName hf.name scope).bind fun name hname => Yields.pure ?_
  exact steady_inline ((hname.solid.toInline.append (by decide)).append hname.solid.flat)
    (by decide)

/-! The lines that the classes share. -/

theorem closes_class : Closes .brace "\x7d\n\n" := closes_literal rfl rfl rfl (by decide)

theorem closes_call : Closes .paren ");\n\n" := closes_literal rfl rfl rfl (by decide)

/-- A signature whose parameters stand in braces, one on each line, and whose last line opens a
parenthesis. -/
theorem opens_signature {head tail : String} {parameters : List String} (hhead : Inline head)
    (hparameters : ∀ parameter ∈ parameters, Steady parameter) (htail : lineEnd? tail = some '(') :
    Opens .paren (head ++ String.join (Struct.inBraces parameters) ++ tail) := by
  rw [Struct.inBraces]
  split
  · rw [String.join_nil, String.append_empty]
    exact opens_inline hhead htail rfl
  · intro stack
    have hfirst : ("\x7d" ++ tail).toList.head? = some '\x7d' := by
      rw [String.toList_append, List.head?_append]
      rfl
    have htext : head ++ String.join (["\x7b\n"] ++ parameters ++ ["\x7d"]) ++ tail =
        (head ++ "\x7b\n") ++ String.join parameters ++ ("\x7d" ++ tail) := by
      simp only [String.join_append, String.join_cons, String.join_nil, String.append_empty,
        String.append_assoc]
    have hopen : Opens .brace (head ++ "\x7b\n") := opens_inline hhead rfl rfl
    rw [htext]
    refine ((hopen stack).append (steady_join hparameters _ (settled_cons rfl stack))).append ?_
    exact lays_closing hfirst rfl rfl (lineEnd?_append (by decide) htail) stack

/-- A call whose signature takes several fragments. -/
theorem lays_join_signature {stack after : Stack} {head tail closing : String}
    {parameters arguments rest : List String}
    (hsignature : Opens .paren (head ++ String.join (Struct.inBraces parameters) ++ tail))
    (harguments : ∀ argument ∈ arguments, Steady argument) (hclosing : Closes .paren closing)
    (hstack : Settled stack) (hrest : Lays stack (String.join rest) after) :
    Lays stack (String.join
      (head :: (Struct.inBraces parameters ++ tail :: (arguments ++ closing :: rest)))) after := by
  have h := lays_join_block rfl hsignature (steady_join harguments) hclosing hstack hrest
  rwa [String.join_cons, String.append_assoc, String.append_assoc, ← String.join_cons,
    ← String.join_append, ← String.join_cons] at h

/-- The empty line after members, if there are any. -/
theorem steady_gap (isEmpty : Bool) : Steady (String.join (if isEmpty then [] else ["\n"])) := by
  cases isEmpty with
  | true => exact steady_join (by simp)
  | false => exact steady_newline

theorem steady_asLine {arguments : List String} (h : ∀ argument ∈ arguments, Inline argument) :
    Steady (String.join (arguments.map Struct.asLine)) := by
  refine steady_join fun line hline => ?_
  obtain ⟨argument, hargument, rfl⟩ := List.mem_map.1 hline
  exact steady_inline (h argument hargument) (by decide)

variable {name : String} {fields : List Field}

theorem yields_structSealedClass (hscope : WellFormedScope scope) (hname : Solid name)
    (hfields : ∀ f ∈ fields, TypedField scope.records f) :
    Yields (Struct.sealedClass (Speller.plain scope) name fields)
      fun code => Declared (String.join code) := by
  refine (Yields.mapM fun f hf => yields_getter hscope (hfields f hf)).bind
    fun getters hgetters => ?_
  have hhead : Inline ("sealed class " ++ name) := Inline.append (by decide) hname.flat
  simp only [List.append_assoc, List.cons_append, List.nil_append]
  refine Yields.pure ⟨fun stack hstack => ?_, begins_join_cons hhead.begins⟩
  have hclass : Settled (.brace :: stack) := settled_cons rfl stack
  refine lays_join_cons (opens_inline hhead rfl rfl stack) ?_
  refine lays_join_append (steady_join hgetters _ hclass) ?_
  refine lays_join_append (steady_gap _ _ hclass) ?_
  refine lays_join_cons (steady_inline hname.toInline (by decide) _ hclass) ?_
  exact lays_join_cons (closes_class stack hstack) (Lays.nil stack)

theorem yields_frozenClass (hscope : WellFormedScope scope) (hname : Solid name)
    (hfields : ∀ f ∈ fields, TypedField scope.records f) :
    Yields (Struct.frozenClass (Speller.plain scope) name fields)
      fun code => Steady (String.join code) := by
  have hall {P : String → Prop} {part : Field → Except Error String}
      (h : ∀ f, TypedField scope.records f → Yields (part f) P) :
      Yields (fields.mapM part) fun parts => ∀ text ∈ parts, P text :=
    Yields.mapM fun f hf => h f (hfields f hf)
  refine (hall fun f hf => yields_frozenProperty hscope hf).bind fun properties hproperties => ?_
  refine (hall fun f hf => yields_parameter hscope hf).bind fun parameters hparameters => ?_
  refine (hall fun f hf => yields_frozenArgument hscope hf).bind fun arguments harguments => ?_
  refine (hall fun f hf => yields_frozenFormal hf.toWellFormedField).bind fun formals hformals => ?_
  refine (hall fun f hf => yields_defaultInstanceArgument hscope hf).bind
    fun instances hinstances => ?_
  refine (hall fun f hf => yields_defaultArgument hscope hf).bind fun defaults hdefaults => ?_
  refine (hall fun f hf => yields_ownField hf.toWellFormedField).bind fun ownFields hownFields => ?_
  refine Yields.pure fun stack hstack => ?_
  have hclass : Settled (.brace :: stack) := settled_cons rfl stack
  have hinline := hname.toInline
  have hflat := hname.flat
  simp only [List.append_assoc, List.cons_append, List.nil_append]
  refine lays_join_cons (opens_inline
    (((Inline.append (by decide) hflat).append (by decide)).append hflat) rfl rfl stack) ?_
  refine lays_join_append (steady_join hproperties _ hclass) ?_
  refine lays_join_cons (steady_inline (Inline.append (by decide) hflat) (by decide) _ hclass) ?_
  refine lays_join_signature (opens_signature ((Inline.append (by decide) hflat).append (by decide))
    hparameters ?_) harguments closes_call hclass ?_
  · exact lineEnd?_append (Flat.append (by decide) hflat) rfl
  refine lays_join_block rfl (opens_inline hinline rfl rfl)
    (steady_join hformals) closes_call hclass ?_
  refine lays_join_block rfl (opens_inline (Inline.append (by decide) hflat) rfl rfl)
    (steady_asLine hinstances) closes_call hclass ?_
  refine lays_join_block rfl (opens_inline (((Inline.append (by decide) hflat).append
    (by decide)).append hflat) rfl rfl) (steady_asLine hdefaults) closes_call hclass ?_
  refine lays_join_cons (steady_literal (by decide) (by decide) _ hclass) ?_
  refine lays_join_cons (steady_literal (by decide) (by decide) _ hclass) ?_
  refine lays_join_cons (steady_inline hinline (by decide) _ hclass) ?_
  refine lays_join_block rfl (opens_inline ((hinline.append (by decide)).append hflat) rfl rfl)
    (steady_join hownFields) (closes_literal rfl rfl rfl (by decide)) hclass ?_
  exact lays_join_cons (closes_class stack hstack) (Lays.nil stack)

theorem yields_mutableClass (hscope : WellFormedScope scope) (hname : Solid name)
    (hfields : ∀ f ∈ fields, TypedField scope.records f) :
    Yields (Struct.mutableClass (Speller.plain scope) name fields)
      fun code => Steady (String.join code) := by
  refine (Yields.mapM fun f hf => yields_mutableProperty hscope (hfields f hf)).bind
    fun properties hproperties => ?_
  refine (Yields.mapM fun f hf => yields_ownField (hfields f hf).toWellFormedField).bind
    fun formals hformals => ?_
  refine (Yields.mapM fun f hf => yields_namedArgument (hfields f hf).toWellFormedField).bind
    fun arguments harguments => ?_
  refine Yields.pure fun stack hstack => ?_
  have hclass : Settled (.brace :: stack) := settled_cons rfl stack
  have hinline := hname.toInline
  have hflat := hname.flat
  simp only [List.append_assoc, List.cons_append, List.nil_append]
  refine lays_join_cons (opens_inline
    (((Inline.append (by decide) hflat).append (by decide)).append hflat) rfl rfl stack) ?_
  refine lays_join_append (steady_join hproperties _ hclass) ?_
  refine lays_join_cons (steady_inline (Inline.append (by decide) hflat) (by decide) _ hclass) ?_
  refine lays_join_block rfl (opens_inline hinline rfl rfl)
    (steady_join hformals) closes_call hclass ?_
  refine lays_join_cons (steady_literal (by decide) (by decide) _ hclass) ?_
  refine lays_join_block rfl (opens_inline ((hinline.append (by decide)).append hflat) rfl rfl)
    (steady_join harguments) (closes_literal rfl rfl rfl (by decide)) hclass ?_
  exact lays_join_cons (closes_class stack hstack) (Lays.nil stack)

theorem yields_structClasses (hscope : WellFormedScope scope) {struct : Record}
    (h : WellFormedRecord scope.records struct) (hstruct : struct.isStruct = true) :
    Yields (Struct.classes (Speller.plain scope) struct) fun code =>
      Declared (String.join code) := by
  have hfields := h.typedField hstruct
  refine (yields_className h).bind fun name hname => ?_
  refine (yields_structSealedClass hscope hname hfields).bind fun sealedOne hsealed => ?_
  refine (yields_frozenClass hscope hname hfields).bind fun frozenOne hfrozen => ?_
  refine (yields_mutableClass hscope hname hfields).bind fun mutableOne hmutable => Yields.pure ?_
  rw [String.join_append, String.join_append]
  exact (hsealed.append hfrozen).append hmutable

end Struct

/-! ## Enums -/

section Enum

variable {f : Field} {name : String}

theorem yields_constantMember (hf : WellFormedField scope.records f) (hname : Solid name) :
    Yields (Enum.constantMember (Speller.plain scope) name f) Steady := by
  refine (yields_variantName hf.name scope).bind fun variant hvariant => ?_
  refine (yields_optionClass hf.name hname).bind fun option hoption => Yields.pure ?_
  exact steady_inline (((((Inline.append (by decide) hname.flat).append (by decide)).append
    hvariant.solid.flat).append (by decide)).append hoption.flat) (by decide)

theorem yields_passedArgument (hf : WellFormedField scope.records f) :
    Yields (Enum.passedArgument (Speller.plain scope) f) Steady := by
  refine (yields_fieldName hf.name scope).bind fun name hname => Yields.pure ?_
  exact steady_inline ((hname.solid.toInline.append (by decide)).append hname.solid.flat)
    (by decide)

theorem yields_createFactory (hscope : WellFormedScope scope) {struct : Record}
    (h : WellFormedRecord scope.records struct) (hstruct : struct.isStruct = true)
    {option base : String} (hname : Solid name) (hoption : Solid option) (hbase : IsWord base) :
    Yields (Enum.createFactory (Speller.plain scope) name option base struct)
      fun code => Steady (String.join code) := by
  have hfields := h.typedField hstruct
  refine (yields_className h).bind fun structName hstructName => ?_
  refine (Yields.mapM fun f hf => yields_parameter hscope (hfields f hf)).bind
    fun parameters hparameters => ?_
  refine (Yields.mapM fun f hf => yields_passedArgument (hfields f hf).toWellFormedField).bind
    fun arguments harguments => ?_
  refine Yields.pure fun stack hstack => ?_
  have hhead : Inline ("static " ++ name ++ " create" ++ base ++ "(") :=
    (((Inline.append (by decide) hname.flat).append (by decide)).append hbase.solid.flat).append
      (by decide)
  have htail : Flat (") => " ++ option ++ "._(" ++ structName) :=
    ((Flat.append (by decide) hoption.flat).append (by decide)).append hstructName.flat
  simp only [List.append_assoc, List.cons_append, List.nil_append]
  exact lays_join_signature (opens_signature hhead hparameters (lineEnd?_append htail rfl))
    harguments (closes_literal rfl rfl rfl (by decide)) hstack (Lays.nil stack)

theorem yields_factories (hscope : WellFormedScope scope) (hf : TypedField scope.records f)
    (hname : Solid name) :
    Yields (Enum.factories (Speller.plain scope) name f) fun code => Steady (String.join code) := by
  refine (yields_optionClass hf.name hname).bind fun option hoption => ?_
  refine (yields_variantBase hf.name).bind fun base hbase => ?_
  refine hf.bind_resolved fun t ht => ?_
  refine (yields_dartType hscope ht (by decide) none).bind fun initializer hinitializer => ?_
  refine (yields_toFrozen hscope ht (by decide)).bind fun frozen hfrozen => ?_
  have hwrap : Steady ("static " ++ name ++ " wrap" ++ base ++ "(" ++ initializer ++ " value) => "
      ++ option ++ "._(" ++ frozen ++ ");\n\n") := by
    refine steady_inline ?_ (by decide)
    exact (((((((((Inline.append (by decide) hname.flat).append (by decide)).append
      hbase.solid.flat).append (by decide)).append hinitializer.flat).append (by decide)).append
      hoption.flat).append (by decide)).append hfrozen.flat)
  have hsingle : Steady (String.join [_]) := steady_join (by simpa using hwrap)
  cases t with
  | primitive p => exact Yields.pure hsingle
  | array item => exact Yields.pure hsingle
  | keyedArray item path keyType => exact Yields.pure hsingle
  | optional other => exact Yields.pure hsingle
  | record key =>
    refine (Yields.lift (yields_record hscope ht List.mem_cons_self)).bind fun r hr => ?_
    split
    · next hstruct =>
      refine (yields_createFactory hscope hr hstruct hname hoption hbase).bind
        fun create hcreate => Yields.pure ?_
      rw [String.join_cons]
      exact hwrap.append hcreate
    · exact Yields.pure hsingle

theorem steady_join_flatten {groups : List (List String)}
    (h : ∀ group ∈ groups, Steady (String.join group)) : Steady (String.join groups.flatten) := by
  induction groups with
  | nil => exact steady_join (by simp)
  | cons group rest ih =>
    rw [List.flatten_cons, String.join_append]
    exact (h group List.mem_cons_self).append (ih fun other hother =>
      h other (List.mem_cons_of_mem _ hother))

theorem steady_kindGetter (hname : Solid name) {kind : String} (hkind : IsWord kind) :
    Steady (String.join (Enum.kindGetter name kind)) := by
  refine steady_join (List.forall_mem_cons.2 ⟨?_, List.forall_mem_cons.2 ⟨?_, by simp⟩⟩)
  · exact steady_literal (by decide) (by decide)
  · exact steady_inline ((((hname.toInline.append (by decide)).append hname.flat).append
      (by decide)).append hkind.solid.flat) (by decide)

/-- The class of a variant: its members, and then the getter of its discriminant. -/
theorem steady_variantClass {header kind : String} {members : List String}
    (hheader : Opens .brace header) (hname : Solid name) (hkind : IsWord kind)
    (hmembers : ∀ member ∈ members, Steady member) :
    Steady (String.join ([header] ++ members ++ Enum.kindGetter name kind ++ ["\x7d\n\n"])) := by
  intro stack hstack
  have hbody : Settled (.brace :: stack) := settled_cons rfl stack
  simp only [List.append_assoc, List.cons_append, List.nil_append]
  refine lays_join_cons (hheader stack) ?_
  refine lays_join_append (steady_join hmembers _ hbody) ?_
  refine lays_join_append (steady_kindGetter hname hkind _ hbody) ?_
  exact lays_join_cons (closes_class stack hstack) (Lays.nil stack)

theorem opens_variantClass {option : String} (hoption : Flat option) (hname : Solid name) :
    Opens .brace ("final class " ++ option ++ " implements " ++ name ++ " \x7b\n") :=
  opens_inline (((Inline.append (by decide) hoption).append (by decide)).append hname.flat) rfl rfl

theorem steady_unknownClass (hname : Solid name) :
    Steady (String.join (Enum.unknownClass name)) := by
  have hheader :
      Opens .brace ("final class " ++ name ++ "_unknown implements " ++ name ++ " \x7b\n") :=
    opens_inline
      (((Inline.append (by decide) hname.flat).append (by decide)).append hname.flat) rfl rfl
  have hmember : Steady ("const " ++ name ++ "_unknown._();\n\n") :=
    steady_inline (Inline.append (by decide) hname.flat) (by decide)
  exact steady_variantClass hheader hname (by decide) (List.forall_mem_singleton.2 hmember)

theorem yields_constantClass (hf : WellFormedField scope.records f) (hname : Solid name) :
    Yields (Enum.constantClass name f : Except Error (List String))
      fun code => Steady (String.join code) := by
  refine (yields_optionClass hf.name hname).bind fun option hoption => ?_
  refine (yields_kindName hf.name).bind fun kind hkind => Yields.pure ?_
  have hmember : Steady ("const " ++ option ++ "._();\n\n") :=
    steady_inline (Inline.append (by decide) hoption.flat) (by decide)
  exact steady_variantClass (opens_variantClass hoption.flat hname) hname hkind
    (List.forall_mem_singleton.2 hmember)

theorem yields_wrapperClass (hscope : WellFormedScope scope) (hf : TypedField scope.records f)
    (hname : Solid name) :
    Yields (Enum.wrapperClass (Speller.plain scope) name f) fun code =>
      Steady (String.join code) := by
  refine (yields_optionClass hf.name hname).bind fun option hoption => ?_
  refine hf.bind_resolved fun t ht => ?_
  refine (yields_dartType hscope ht (by decide) none).bind fun value hvalue => ?_
  refine (yields_kindName hf.name).bind fun kind hkind => Yields.pure ?_
  have hvalueLine : Steady ("final " ++ value ++ " value;\n\n") :=
    steady_inline (Inline.append (by decide) hvalue.flat) (by decide)
  have hconstructor : Steady (option ++ "._(this.value);\n\n") :=
    steady_inline hoption.toInline (by decide)
  exact steady_variantClass (opens_variantClass hoption.flat hname) hname hkind
    (List.forall_mem_cons.2 ⟨hvalueLine, List.forall_mem_singleton.2 hconstructor⟩)

variable {fields : List Field}

theorem yields_kindEnum (hfields : ∀ f ∈ fields, WellFormedField scope.records f)
    (hname : Solid name) :
    Yields (Enum.kindEnum name fields : Except Error (List String))
      fun code => Steady (String.join code) := by
  refine (Yields.mapM fun f hf => yields_kindName (hfields f hf).name).bind fun kinds hkinds => ?_
  refine Yields.pure fun stack hstack => ?_
  have hclass : Settled (.brace :: stack) := settled_cons rfl stack
  simp only [List.cons_append, List.nil_append]
  refine lays_join_cons (opens_inline (Inline.append (by decide) hname.flat) rfl rfl stack) ?_
  refine lays_join_cons (steady_literal (by decide) (by decide) _ hclass) ?_
  refine lays_join_append
    (steady_asLine (fun kind hkind => (hkinds kind hkind).solid.toInline) _ hclass) ?_
  exact lays_join_cons (closes_class stack hstack) (Lays.nil stack)

/-- A variant that is no constant has a type. -/
theorem typedField_of_mem_filter (hfields : ∀ f ∈ fields, WellFormedField scope.records f)
    (hf : f ∈ fields.filter (!Enum.isConstant ·)) : TypedField scope.records f := by
  obtain ⟨hf, hvalue⟩ := List.mem_filter.1 hf
  refine ⟨hfields f hf, ?_⟩
  simpa [Enum.isConstant] using hvalue

theorem yields_enumSealedClass (hscope : WellFormedScope scope)
    (hfields : ∀ f ∈ fields, WellFormedField scope.records f) (hname : Solid name) :
    Yields (Enum.sealedClass (Speller.plain scope) name fields)
      fun code => Declared (String.join code) := by
  refine (Yields.mapM fun f hf =>
    yields_constantMember (hfields f (List.mem_filter.1 hf).1) hname).bind
    fun constants hconstants => ?_
  refine (Yields.mapM fun f hf => yields_factories hscope (typedField_of_mem_filter hfields hf)
    hname).bind fun values hvalues => ?_
  have hflat := hname.flat
  have hhead : Inline ("sealed class " ++ name) := Inline.append (by decide) hflat
  simp only [List.append_assoc, List.cons_append, List.nil_append]
  refine Yields.pure ⟨fun stack hstack => ?_, begins_join_cons hhead.begins⟩
  have hclass : Settled (.brace :: stack) := settled_cons rfl stack
  refine lays_join_cons (opens_inline hhead rfl rfl stack) ?_
  refine lays_join_cons (steady_inline (((Inline.append (by decide) hflat).append
    (by decide)).append hflat) (by decide) _ hclass) ?_
  refine lays_join_append (steady_join hconstants _ hclass) ?_
  refine lays_join_append (steady_gap _ _ hclass) ?_
  refine lays_join_append (steady_join_flatten hvalues _ hclass) ?_
  refine lays_join_cons (steady_inline hname.toInline (by decide) _ hclass) ?_
  exact lays_join_cons (closes_class stack hstack) (Lays.nil stack)

theorem yields_enumClasses (hscope : WellFormedScope scope) {enum : Record}
    (h : WellFormedRecord scope.records enum) :
    Yields (Enum.classes (Speller.plain scope) enum) fun code => Declared (String.join code) := by
  refine (yields_className h).bind fun name hname => ?_
  refine (yields_enumSealedClass hscope h.fields hname).bind fun sealedOne hsealed => ?_
  refine (Yields.mapM fun f hf =>
    yields_constantClass (h.fields f (List.mem_filter.1 hf).1) hname).bind
      fun constants hconstants => ?_
  refine (Yields.mapM fun f hf => yields_wrapperClass hscope (typedField_of_mem_filter h.fields hf)
    hname).bind fun wrappers hwrappers => ?_
  refine (yields_kindEnum h.fields hname).bind fun kinds hkinds => Yields.pure ?_
  simp only [String.join_append]
  exact (((hsealed.append (steady_unknownClass hname)).append
    (steady_join_flatten hconstants)).append
    (steady_join_flatten hwrappers)).append hkinds

end Enum

/-! ## Records, methods and constants -/

theorem yields_recordCode (hscope : WellFormedScope scope) {r : Record}
    (h : WellFormedRecord scope.records r) :
    Yields (recordCode (Speller.plain scope) r) fun code => Declared (String.join code) := by
  have hcode {result : Except Error (List String)}
      (hresult : Yields result fun code => Declared (String.join code)) :
      Yields (result >>= fun code => pure ("\n" :: code)) fun code =>
        Declared (String.join code) := by
    refine hresult.bind fun code hcode => Yields.pure ?_
    rw [String.join_cons]
    exact ⟨steady_newline.append hcode.steady, hcode.begins.newline⟩
  rw [recordCode]
  split
  · next hstruct => exact hcode (yields_structClasses hscope h hstruct)
  · exact hcode (yields_enumClasses hscope h)

/-- A line that ends with an equals sign opens a continuation. -/
theorem leave_equals {stack : Stack} (h : Settled stack) :
    leave stack '=' = .continuation :: stack := by
  simp [leave, opener?, h.2]

theorem flat_literal (text : String) : Flat (String.ofList (stringLiteral text.toList)) := by
  rw [Flat, String.toList_ofList]
  exact newline_not_mem_stringLiteral _

theorem inline_literal (text : String) : Inline (String.ofList (stringLiteral text.toList)) := by
  refine ⟨flat_literal text, ?_⟩
  rw [String.toList_ofList, stringLiteral_eq]
  rfl

theorem inline_int (n : Int) : Inline (Json.int n).display := by
  have hdigits (k : Nat) : IsWord (String.ofList (Nat.toDigits 10 k)) := by
    refine Naming.isWord_ofList ⟨Nat.toDigits_ne_nil, fun c hc => ?_⟩
    have hdigit := Nat.isDigit_of_mem_toDigits (by decide) (by decide) hc
    simp [Naming.isWordChar, Char.isAlphanum, hdigit]
  change Inline (String.ofList (Json.intText n))
  rw [Json.intText]
  split
  · rw [String.ofList_cons]
    exact Inline.append (by decide) (hdigits n.natAbs).solid.flat
  · exact (hdigits n.natAbs).solid.toInline

theorem yields_methodCode (hscope : WellFormedScope scope) {method : Method}
    (h : WellFormedMethod scope.records method) :
    Yields (methodCode (Speller.plain scope) method) Declared := by
  refine (yields_dartType hscope h.request (by decide) none).bind fun request hrequest => ?_
  refine (yields_dartType hscope h.response (by decide) none).bind fun response hresponse => ?_
  refine (yields_serializer hscope h.request).bind fun requestSerializer hrequestSerializer => ?_
  refine (yields_serializer hscope h.response).bind fun responseSerializer hresponseSerializer => ?_
  obtain ⟨name, hmethod, hname⟩ := h.name.exists_str
  rw [hmethod, Template.render_method]
  refine Yields.lift (Yields.ofValue (Yields.ok ⟨fun stack hstack => ?_, ?begins⟩))
  case begins =>
    simp only [String.append_assoc]
    exact Begins.append (begins_of_head (by decide)) _
  have htypes : Settled (.angle :: stack) := settled_cons rfl stack
  have harguments : Settled (.paren :: .continuation :: stack) := settled_cons rfl _
  have hopen : Opens .angle "final _soia.Method<\n" := opens_literal (by decide) rfl rfl
  have hcall : Opens .paren "_soia.Method(\n" := opens_literal (by decide) rfl rfl
  have hnameLine : Lays (.angle :: stack) ("> " ++ name ++ " =\n") (.continuation :: stack) := by
    have hfirst : ("> " ++ name ++ " =\n").toList.head? = some '>' := by
      simp only [String.toList_append, List.append_assoc, List.head?_append]
      rfl
    have hend : lineEnd? ("> " ++ name ++ " =\n") = some '=' :=
      lineEnd?_append (Flat.append (by decide) hname.solid.flat) rfl
    rw [← leave_equals hstack]
    exact lays_closing hfirst rfl rfl hend stack
  have hclose : Lays (.paren :: .continuation :: stack) ");\n\n" stack :=
    lays_closing (rfl : ");\n\n".toList.head? = some ')') rfl rfl
      (rfl : lineEnd? ");\n\n" = some ';') (.continuation :: stack)
  -- The lines are peeled off from the last one, so that each stack is known.
  refine Lays.append ?_ hclose
  refine Lays.append ?_ (hresponseSerializer.steady (by decide) _ harguments)
  refine Lays.append ?_ (hrequestSerializer.steady (by decide) _ harguments)
  refine Lays.append ?_ (steady_inline (inline_int method.number) (by decide) _ harguments)
  refine Lays.append ?_ (steady_inline (inline_literal name) (by decide) _ harguments)
  refine Lays.append (Lays.append ?_ hnameLine) (hcall _)
  refine Lays.append ?_ (steady_solid hresponse _ htypes)
  exact (hopen stack).append (steady_inline hrequest.toInline (by decide) _ htypes)

theorem yields_constantCode (hscope : WellFormedScope scope) {constant : Constant}
    (h : WellFormedConstant scope.records constant) :
    Yields (constantCode (Speller.plain scope) constant) Declared := by
  refine (yields_constantName h.name scope).bind fun name hname => ?_
  refine (yields_dartType hscope h.type (by decide) none).bind fun type htype => ?_
  refine (yields_serializer hscope h.type).bind fun serializer hserializer => ?_
  rw [Template.render_constant]
  refine Yields.lift (Yields.ofValue (Yields.ok ⟨fun stack hstack => ?_, ?begins⟩))
  case begins =>
    simp only [String.append_assoc]
    exact Begins.append (begins_of_head (by decide)) _
  have hfirst :
      Lays stack ("final " ++ type ++ " " ++ name ++ " =\n") (.continuation :: stack) := by
    rw [← leave_equals hstack]
    exact lays_inline (((Inline.append (by decide) htype.flat).append (by decide)).append
      hname.solid.flat) rfl stack
  have hend :
      lineEnd? (".fromJsonCode(" ++ String.ofList (stringLiteral constant.value.toDense.toList)
      ++ ");\n\n") = some ';' :=
    lineEnd?_append (Flat.append (by decide) (flat_literal _)) rfl
  have hsecond : Lays (.continuation :: stack) _ stack :=
    hserializer (.continuation :: stack) _ _ hend
  simpa only [String.append_assoc] using hfirst.append hsecond

/-! ## The preamble -/

theorem steady_comment {head middle tail : String}
    (hhead : ['/', '/'] <+: head.toList ∧ Flat head) (hmiddle : Flat middle)
    (htail : endsLine tail = true) : Steady (head ++ middle ++ tail) := by
  intro stack _
  refine lays_comment ?_ (endsLine_append (hhead.2.append hmiddle) htail) stack
  simp only [String.toList_append, List.append_assoc]
  obtain ⟨rest, hrest⟩ := hhead.1
  exact ⟨rest ++ (middle.toList ++ tail.toList), by rw [← List.append_assoc, hrest]⟩

theorem comment_ofList {rest : List Char} (h : '\n' ∉ rest) :
    ['/', '/'] <+: (String.ofList ('/' :: '/' :: rest)).toList ∧
      Flat (String.ofList ('/' :: '/' :: rest)) := by
  rw [Flat, String.toList_ofList]
  exact ⟨⟨rest, rfl⟩, by simpa using h⟩

theorem comment_of_mem_picture :
    ∀ line ∈ Template.bannerPicture, ['/', '/'] <+: line.toList ∧ Flat line := by
  -- The characters of a literal come from unification, which is faster than reading its bytes.
  rw [Template.bannerPicture]
  simp only [List.forall_mem_cons, List.not_mem_nil, false_implies, implies_true, and_true]
  exact ⟨comment_ofList (by decide), comment_ofList (by decide), comment_ofList (by decide),
    comment_ofList (by decide), comment_ofList (by decide), comment_ofList (by decide)⟩

theorem steady_bannerText {package : String} (h : Flat package) :
    Steady (Template.bannerText package) := by
  refine ((Steady.append (steady_join fun fragment hfragment => ?_) ?_).append ?_).append ?_
  · obtain ⟨line, hline, rfl⟩ := List.mem_map.1 hfragment
    obtain ⟨hcomment, hflat⟩ := comment_of_mem_picture line hline
    refine fun stack _ => lays_comment ?_ (endsLine_append hflat rfl) stack
    rw [String.toList_append]
    exact hcomment.trans (List.prefix_append _ _)
  · exact fun stack _ => lays_comment (by decide) (by decide) stack
  · exact steady_comment (by decide) h (by decide)
  · exact steady_comment (by decide) h (by decide)

/-- The imports of a module, if the paths to the other modules are there. -/
theorem mapM_importEntry {workingDirectory : List String} {path : String}
    {R : String → String → Prop} {imports : List String} (h : ∀ imported ∈ imports,
      Yields (importPath workingDirectory path imported) (R imported)) :
    ∃ entries : List (String × String), imports.mapM (importEntry workingDirectory path) =
        .ok (entries.map Template.importValue) ∧
      List.Forall₂ (fun imported entry => entry.2 = moduleAlias imported ∧ R imported entry.1)
        imports entries := by
  induction imports with
  | nil => exact ⟨[], rfl, .nil⟩
  | cons imported imports ih =>
    obtain ⟨text, htext, hR⟩ := h imported List.mem_cons_self
    obtain ⟨entries, hentries, hall⟩ :=
      ih fun other hother => h other (List.mem_cons_of_mem _ hother)
    refine ⟨(text, moduleAlias imported) :: entries, ?_, .cons ⟨rfl, hR⟩ hall⟩
    rw [List.mapM_cons, importEntry, htext, hentries]
    rfl

/-- The text of a preamble, if the paths to the other modules are there. -/
theorem preambleCode_eq {workingDirectory : List String} {path : String}
    {R : String → String → Prop} {imports : List String} (h : ∀ imported ∈ imports,
      Yields (importPath workingDirectory path imported) (R imported)) (config : Config) :
    ∃ entries : List (String × String), preambleCode config workingDirectory path imports =
        .ok (Template.preambleText config.addBanner config.clientPackage entries) ∧
      List.Forall₂ (fun imported entry => entry.2 = moduleAlias imported ∧ R imported entry.1)
        imports entries := by
  obtain ⟨entries, hentries, hall⟩ := mapM_importEntry h
  refine ⟨entries, ?_, hall⟩
  rw [preambleCode, hentries]
  exact Template.render_preamble _ _ _

/-- The line of an import is steady if its path keeps to the line. -/
theorem steady_importLine {entry : String × String} (hpath : Flat entry.1) (hname : Flat entry.2) :
    Steady (Template.importLine entry) :=
  steady_inline (((Inline.append (by decide) hpath).append (by decide)).append hname) (by decide)

theorem yields_preambleCode {config : Config} {package : String}
    (hconfig : config.clientPackage = .str package) (hpackage : Flat package)
    {workingDirectory : List String} {path : String} (hpath : IsModulePath path)
    (hdirectory : Path.rootOf path = "" ∨ ∀ name ∈ workingDirectory, Flat name)
    {imports : List String} (himports : ∀ imported ∈ imports, IsModulePath imported) :
    Yields (preambleCode config workingDirectory path imports) Steady := by
  obtain ⟨entries, hpreamble, hentries⟩ := preambleCode_eq (fun imported himported =>
    hpath.exists_importPath hdirectory (himports imported himported)) config
  have hlines : ∀ line ∈ entries.map Template.importLine, Steady line := by
    intro line hline
    obtain ⟨entry, hentry, rfl⟩ := List.mem_map.1 hline
    obtain ⟨imported, himported, hname, hflat⟩ := exists_of_forall₂_left hentries.flip hentry
    refine steady_importLine hflat ?_
    rw [hname]
    exact (himports imported himported).inline_moduleAlias.flat
  rw [hconfig] at hpreamble
  refine ⟨_, hpreamble, ?_⟩
  refine (((Steady.append ?_ ?_).append ?_).append ?_).append steady_newline
  · split
    · exact steady_bannerText hpackage
    · exact fun stack _ => Lays.nil stack
  · exact steady_literal (by decide) (by decide)
  · exact steady_inline (((Inline.append (by decide) hpackage).append (by decide)).append hpackage)
      (by decide)
  · split
    · exact fun stack _ => Lays.nil stack
    · exact steady_newline.append (steady_join hlines)

end DartRecords.Dart
