import Xref.Record
import Xref.Shape

/-!
# The grammar of modules

A node of a tree belongs to a category (it is an expression, a pattern, a signature) and has one of
the forms of that category. The table `Form.rule` gives for each form the shape under which it is
reported and the slots that a node of this form fills, in the order of the text: names that are
bound, names that are referred to, and nodes of given categories.

What a walk may do with the nodes of a form is listed apart from the table (`Form.access`), and the
shapes of the table agree with that list (`Form.access_eq`): only groups of bindings and missing
local bindings have no shape, and the forms that are never looked into are just those with a shape
that is not implemented.
-/

namespace Xref

/-- A literal in an expression or a pattern. -/
inductive Literal where
  | int (value : Int64)
  | frac (text : String)
  | char (value : Char)
  | str (text : String)
deriving DecidableEq

/-- The kind of a block of statements. -/
inductive BlockKind where
  | doBlock
  | mdoBlock
  | listComprehension
  | monadComprehension
deriving DecidableEq

/-- What a node of a tree is. -/
inductive Category where
  /-- A declaration of a module. -/
  | decl
  /-- A binding. -/
  | bind
  /-- Bindings that depend on each other. -/
  | bindGroup
  /-- What stands in a `let` or `where`. -/
  | localBinds
  /-- A signature of names. -/
  | signature
  /-- A declaration of a type or a class. -/
  | typeDecl
  /-- A data constructor where it is declared. -/
  | dataCon
  /-- A record field where it is declared. -/
  | conField
  /-- A declaration of an instance. -/
  | instanceDecl
  /-- The alternatives of a function, a lambda or a case. -/
  | alternatives
  /-- One alternative: patterns and right-hand sides. -/
  | alternative
  /-- The right-hand sides of an alternative, with their local bindings. -/
  | guardedRhss
  /-- One right-hand side, with its guards. -/
  | guardedRhs
  | expr
  /-- A field in the construction or update of a record. -/
  | recordField
  | stmt
  | pat
  /-- A field in a record pattern. -/
  | patField
  | type
  /-- A type variable where it is bound. -/
  | typeVar
deriving DecidableEq

/-- The forms of each category. What a node holds besides names and nodes is part of its form. -/
inductive Form : Category → Type where
  -- Bindings.
  /-- A function with its equations. -/
  | funBind : Form .bind
  | patBind : Form .bind
  /-- A generated binding, whose variable stands nowhere in the text. -/
  | varBind : Form .bind
  /-- The type checker's wrapper around bindings that it generalised together. -/
  | absBinds : Form .bind
  | patSynBind : Form .bind
  | bindGroup (recursive : Bool) : Form .bindGroup
  -- Local bindings.
  | noBinds : Form .localBinds
  /-- Bindings in groups, in the order of their dependencies. -/
  | groupedBinds : Form .localBinds
  /-- Bindings as they stand in the text. -/
  | ungroupedBinds : Form .localBinds
  | implicitParams : Form .localBinds
  -- Signatures.
  | typeSig : Form .signature
  | classOpSig : Form .signature
  | fixitySig (precedence : UInt8) : Form .signature
  | inlineSig : Form .signature
  | specSig : Form .signature
  -- Declarations of types, classes and instances.
  | dataDecl : Form .typeDecl
  | synonymDecl : Form .typeDecl
  | classDecl : Form .typeDecl
  | familyDecl : Form .typeDecl
  | plainCon : Form .dataCon
  | operatorCon : Form .dataCon
  | recordCon : Form .dataCon
  | gadtCon : Form .dataCon
  | conField : Form .conField
  | classInstance : Form .instanceDecl
  | dataFamilyInstance : Form .instanceDecl
  | typeFamilyInstance : Form .instanceDecl
  -- Declarations. Any form of a binding, a signature and so on is a form of a declaration.
  | valueDecl (form : Form .bind) : Form .decl
  | signatureDecl (form : Form .signature) : Form .decl
  | typeDecl (form : Form .typeDecl) : Form .decl
  | instanceDecl (form : Form .instanceDecl) : Form .decl
  | standaloneDeriving : Form .decl
  | foreignDecl : Form .decl
  | ruleDecl : Form .decl
  | spliceDecl : Form .decl
  -- Alternatives and their right-hand sides.
  | alternatives : Form .alternatives
  | alternative : Form .alternative
  | guardedRhss : Form .guardedRhss
  | guardedRhs : Form .guardedRhs
  -- Expressions.
  /-- A variable or a data constructor. -/
  | varExpr : Form .expr
  | recordExpr : Form .expr
  | recordUpdate : Form .expr
  | litExpr (value : Literal) : Form .expr
  | lambda : Form .expr
  | lambdaCase : Form .expr
  | app : Form .expr
  /-- The application of an expression to a type. -/
  | typeApp : Form .expr
  | opApp : Form .expr
  | negation : Form .expr
  | parExpr : Form .expr
  /-- An operator with its left operand. -/
  | sectionL : Form .expr
  /-- An operator with its right operand. -/
  | sectionR : Form .expr
  /-- A tuple, in which components may be missing. -/
  | tupleExpr : Form .expr
  | caseExpr : Form .expr
  | ifExpr : Form .expr
  | multiIf : Form .expr
  | letExpr : Form .expr
  | doExpr (kind : BlockKind) : Form .expr
  | listExpr : Form .expr
  /-- An enumeration: its first element and, if given, its second and its bound. -/
  | arithSeq : Form .expr
  | sigExpr : Form .expr
  /-- A coercion that the type checker put around an expression. -/
  | wrap : Form .expr
  | spliceExpr : Form .expr
  | bracket : Form .expr
  | arrowProc : Form .expr
  | static : Form .expr
  | hole (text : String) : Form .expr
  /-- A field and its value, which is missing where the field stands for itself. -/
  | recordField : Form .recordField
  -- Statements.
  | bindStmt : Form .stmt
  | bodyStmt : Form .stmt
  | letStmt : Form .stmt
  /-- The last expression of a block. -/
  | lastStmt : Form .stmt
  | recStmt : Form .stmt
  | parStmt : Form .stmt
  | applicativeStmt : Form .stmt
  -- Patterns.
  | wildPat : Form .pat
  | varPat : Form .pat
  | asPat : Form .pat
  | lazyPat : Form .pat
  | bangPat : Form .pat
  | parPat : Form .pat
  | listPat : Form .pat
  | tuplePat : Form .pat
  | conPat : Form .pat
  | conOperatorPat : Form .pat
  | conRecordPat : Form .pat
  | litPat (value : Literal) : Form .pat
  | viewPat : Form .pat
  | sigPat : Form .pat
  | nPlusKPat (value : Literal) : Form .pat
  | splicePat : Form .pat
  /-- A field and its pattern, which is missing where the field stands for itself. -/
  | patField : Form .patField
  -- Types.
  /-- A type variable, a type constructor or a class. -/
  | nameType : Form .type
  | appType : Form .type
  | funType : Form .type
  | listType : Form .type
  | tupleType : Form .type
  | parType : Form .type
  | forAllType : Form .type
  /-- A type with a context. -/
  | qualType : Form .type
  | kindSigType : Form .type
  | bangType : Form .type
  | opType : Form .type
  | litType (text : String) : Form .type
  | wildcardType : Form .type
  | spliceType : Form .type
  | userTyVar : Form .typeVar
  | kindedTyVar : Form .typeVar
deriving DecidableEq

/-- A place in a node for a name or for nodes. -/
inductive Slot where
  /-- A name with its location. -/
  | name (use : Use)
  /-- Names with their locations, all used in one way. -/
  | names (use : Use)
  /-- An identifier that stands nowhere in the text. -/
  | generated
  /-- A node that has no location of its own. -/
  | node (c : Category)
  /-- A node with its location. -/
  | located (c : Category)
  /-- A slot that may be left empty. -/
  | optional (slot : Slot)
  /-- A slot that is filled any number of times. -/
  | many (slot : Slot)

/-- How nodes of one form are reported, and what they are made of. -/
structure Rule where
  /-- The shape of the nodes. Nodes without a shape are no part of a report. -/
  shape? : Option Shape
  /-- The slots that a node fills, in the order of the text. -/
  slots : List Slot

/-- The grammar. -/
def Form.rule : {c : Category} → Form c → Rule
  -- Bindings.
  | _, funBind => ⟨some .funBind, [.name .binding, .node .alternatives]⟩
  | _, patBind => ⟨some .patBind, [.located .pat, .node .guardedRhss]⟩
  | _, varBind => ⟨some .varBind, [.generated, .located .expr]⟩
  | _, absBinds => ⟨some .absBinds, [.many (.located .bind)]⟩
  | _, patSynBind => ⟨some .patSynBind, []⟩
  | _, bindGroup _ => ⟨none, [.many (.located .bind)]⟩
  -- Local bindings.
  | _, noBinds => ⟨none, []⟩
  | _, groupedBinds =>
    ⟨some .groupedBinds, [.many (.node .bindGroup), .many (.located .signature)]⟩
  | _, ungroupedBinds =>
    ⟨some .ungroupedBinds, [.many (.located .bind), .many (.located .signature)]⟩
  | _, implicitParams => ⟨some .implicitParams, []⟩
  -- Signatures. That of a class method introduces the method.
  | _, typeSig => ⟨some .typeSig, [.names .reference, .located .type]⟩
  | _, classOpSig => ⟨some .classOpSig, [.names .binding, .located .type]⟩
  | _, fixitySig _ => ⟨some .fixitySig, [.names .reference]⟩
  | _, inlineSig => ⟨some .inlineSig, [.name .reference]⟩
  | _, specSig => ⟨some .specSig, []⟩
  -- Declarations of types, classes and instances.
  | _, dataDecl =>
    ⟨some .dataDecl, [.many (.located .type), .name .binding, .many (.located .typeVar),
      .many (.located .dataCon), .many (.located .type)]⟩
  | _, synonymDecl =>
    ⟨some .synonymDecl, [.name .binding, .many (.located .typeVar), .located .type]⟩
  | _, classDecl =>
    ⟨some .classDecl, [.many (.located .type), .name .binding, .many (.located .typeVar),
      .many (.located .signature), .many (.located .bind)]⟩
  | _, familyDecl => ⟨some .familyDecl, []⟩
  | _, plainCon => ⟨some .conDecl, [.name .binding, .many (.located .type)]⟩
  | _, operatorCon => ⟨some .conDecl, [.located .type, .name .binding, .located .type]⟩
  | _, recordCon => ⟨some .conDecl, [.name .binding, .many (.located .conField)]⟩
  | _, gadtCon => ⟨some .gadtConDecl, []⟩
  | _, conField => ⟨some .conField, [.names .binding, .located .type]⟩
  | _, classInstance =>
    ⟨some .classInstance, [.located .type, .many (.located .signature), .many (.located .bind)]⟩
  | _, dataFamilyInstance => ⟨some .dataFamilyInstance, []⟩
  | _, typeFamilyInstance => ⟨some .typeFamilyInstance, []⟩
  -- Declarations.
  | _, valueDecl form => form.rule
  | _, signatureDecl form => form.rule
  | _, typeDecl form => form.rule
  | _, instanceDecl form => form.rule
  | _, standaloneDeriving => ⟨some .standaloneDeriving, []⟩
  | _, foreignDecl => ⟨some .foreignDecl, []⟩
  | _, ruleDecl => ⟨some .ruleDecl, []⟩
  | _, spliceDecl => ⟨some .spliceDecl, []⟩
  -- Alternatives and their right-hand sides.
  | _, alternatives => ⟨some .alternatives, [.many (.located .alternative)]⟩
  | _, alternative => ⟨some .alternative, [.many (.located .pat), .node .guardedRhss]⟩
  | _, guardedRhss => ⟨some .guardedRhss, [.many (.located .guardedRhs), .node .localBinds]⟩
  | _, guardedRhs => ⟨some .guardedRhs, [.many (.located .stmt), .located .expr]⟩
  -- Expressions.
  | _, varExpr => ⟨some .varExpr, [.name .reference]⟩
  | _, recordExpr => ⟨some .recordExpr, [.name .reference, .many (.located .recordField)]⟩
  | _, recordUpdate => ⟨some .recordUpdate, [.located .expr, .many (.located .recordField)]⟩
  | _, litExpr _ => ⟨some .litExpr, []⟩
  | _, lambda => ⟨some .lambda, [.node .alternatives]⟩
  | _, lambdaCase => ⟨some .lambdaCase, [.node .alternatives]⟩
  | _, app => ⟨some .app, [.located .expr, .located .expr]⟩
  | _, typeApp => ⟨some .typeApp, [.located .expr, .located .type]⟩
  | _, opApp => ⟨some .opApp, [.located .expr, .located .expr, .located .expr]⟩
  | _, negation => ⟨some .negation, [.located .expr]⟩
  | _, parExpr => ⟨some .parExpr, [.located .expr]⟩
  | _, sectionL => ⟨some .sectionL, [.located .expr, .located .expr]⟩
  | _, sectionR => ⟨some .sectionR, [.located .expr, .located .expr]⟩
  | _, tupleExpr => ⟨some .tupleExpr, [.many (.optional (.located .expr))]⟩
  | _, caseExpr => ⟨some .caseExpr, [.located .expr, .node .alternatives]⟩
  | _, ifExpr => ⟨some .ifExpr, [.located .expr, .located .expr, .located .expr]⟩
  | _, multiIf => ⟨some .multiIf, [.many (.located .guardedRhs)]⟩
  | _, letExpr => ⟨some .letExpr, [.node .localBinds, .located .expr]⟩
  | _, doExpr _ => ⟨some .doExpr, [.many (.located .stmt)]⟩
  | _, listExpr => ⟨some .listExpr, [.many (.located .expr)]⟩
  | _, arithSeq =>
    ⟨some .arithSeq, [.located .expr, .optional (.located .expr), .optional (.located .expr)]⟩
  | _, sigExpr => ⟨some .sigExpr, [.located .expr, .located .type]⟩
  | _, wrap => ⟨some .wrap, [.located .expr]⟩
  | _, spliceExpr => ⟨some .spliceExpr, []⟩
  | _, bracket => ⟨some .bracket, []⟩
  | _, arrowProc => ⟨some .arrowProc, []⟩
  | _, static => ⟨some .static, [.located .expr]⟩
  | _, hole _ => ⟨some .hole, []⟩
  | _, recordField => ⟨some .recordField, [.name .reference, .optional (.located .expr)]⟩
  -- Statements.
  | _, bindStmt => ⟨some .bindStmt, [.located .pat, .located .expr]⟩
  | _, bodyStmt => ⟨some .bodyStmt, [.located .expr]⟩
  | _, letStmt => ⟨some .letStmt, [.node .localBinds]⟩
  | _, lastStmt => ⟨some .lastStmt, [.located .expr]⟩
  | _, recStmt => ⟨some .recStmt, [.many (.located .stmt)]⟩
  | _, parStmt => ⟨some .parStmt, []⟩
  | _, applicativeStmt => ⟨some .applicativeStmt, []⟩
  -- Patterns.
  | _, wildPat => ⟨some .wildPat, []⟩
  | _, varPat => ⟨some .varPat, [.name .binding]⟩
  | _, asPat => ⟨some .asPat, [.name .binding, .located .pat]⟩
  | _, lazyPat => ⟨some .lazyPat, [.located .pat]⟩
  | _, bangPat => ⟨some .bangPat, [.located .pat]⟩
  | _, parPat => ⟨some .parPat, [.located .pat]⟩
  | _, listPat => ⟨some .listPat, [.many (.located .pat)]⟩
  | _, tuplePat => ⟨some .tuplePat, [.many (.located .pat)]⟩
  | _, conPat => ⟨some .conPat, [.name .reference, .many (.located .pat)]⟩
  | _, conOperatorPat => ⟨some .conPat, [.located .pat, .name .reference, .located .pat]⟩
  | _, conRecordPat => ⟨some .conPat, [.name .reference, .many (.located .patField)]⟩
  | _, litPat _ => ⟨some .litPat, []⟩
  | _, viewPat => ⟨some .viewPat, [.located .expr, .located .pat]⟩
  | _, sigPat => ⟨some .sigPat, [.located .pat, .located .type]⟩
  | _, nPlusKPat _ => ⟨some .nPlusKPat, [.name .binding]⟩
  | _, splicePat => ⟨some .splicePat, []⟩
  | _, patField => ⟨some .patField, [.name .reference, .optional (.located .pat)]⟩
  -- Types.
  | _, nameType => ⟨some .nameType, [.name .reference]⟩
  | _, appType => ⟨some .appType, [.located .type, .located .type]⟩
  | _, funType => ⟨some .funType, [.located .type, .located .type]⟩
  | _, listType => ⟨some .listType, [.located .type]⟩
  | _, tupleType => ⟨some .tupleType, [.many (.located .type)]⟩
  | _, parType => ⟨some .parType, [.located .type]⟩
  | _, forAllType => ⟨some .forAllType, [.many (.located .typeVar), .located .type]⟩
  | _, qualType => ⟨some .qualType, [.many (.located .type), .located .type]⟩
  | _, kindSigType => ⟨some .kindSigType, [.located .type, .located .type]⟩
  | _, bangType => ⟨some .bangType, [.located .type]⟩
  | _, opType => ⟨some .opType, [.located .type, .name .reference, .located .type]⟩
  | _, litType _ => ⟨some .litType, []⟩
  | _, wildcardType => ⟨some .wildcardType, []⟩
  | _, spliceType => ⟨some .spliceType, []⟩
  | _, userTyVar => ⟨some .userTyVar, [.name .binding]⟩
  | _, kindedTyVar => ⟨some .kindedTyVar, [.name .binding, .located .type]⟩

/-- The shape under which nodes of a form are reported. -/
abbrev Form.shape? {c : Category} (form : Form c) : Option Shape :=
  form.rule.shape?

/-- The slots that nodes of a form fill. -/
abbrev Form.slots {c : Category} (form : Form c) : List Slot :=
  form.rule.slots

/-! ## Access to the nodes of a form -/

/-- How a walk may get to what a node holds. -/
inductive Access where
  /-- Always: the node has no shape and is in no report. -/
  | free
  /-- If the shape of the node is supported. -/
  | gated
  /-- Never: the node is recognised, and not looked into. -/
  | closed
deriving DecidableEq

/-- How a walk may get to what the nodes of a form hold. -/
def Form.access : {c : Category} → Form c → Access
  | _, bindGroup _ | _, noBinds => .free
  | _, standaloneDeriving | _, foreignDecl | _, ruleDecl | _, spliceDecl | _, patSynBind
  | _, implicitParams | _, specSig | _, familyDecl | _, gadtCon | _, dataFamilyInstance
  | _, typeFamilyInstance | _, spliceExpr | _, bracket | _, arrowProc | _, static | _, hole _
  | _, parStmt | _, applicativeStmt | _, nPlusKPat _ | _, splicePat | _, spliceType => .closed
  | _, valueDecl form => form.access
  | _, signatureDecl form => form.access
  | _, typeDecl form => form.access
  | _, instanceDecl form => form.access
  | _, _ => .gated

/-- The access to the nodes of a form, read off the shape that the grammar gives it. -/
theorem Form.access_eq {c : Category} (form : Form c) :
    form.access =
      match form.shape? with
      | none => .free
      | some shape => if shape.isImplemented then .gated else .closed := by
  induction form with
  | valueDecl form ih => exact ih
  | signatureDecl form ih => exact ih
  | typeDecl form ih => exact ih
  | instanceDecl form ih => exact ih
  | _ => rfl

/-- The nodes of a form have no shape exactly if they are never in the way. -/
theorem Form.shape?_eq_none_iff {c : Category} {form : Form c} :
    form.shape? = none ↔ form.access = .free := by
  rw [form.access_eq]
  cases form.shape? with
  | none => simp
  | some shape =>
    cases himpl : shape.isImplemented with
    | false => simp [himpl]
    | true => simp [himpl]

/-- The shape of a form is not implemented exactly if its nodes are never looked into. -/
theorem Form.isImplemented_eq_false_iff {c : Category} {form : Form c} {shape : Shape}
    (h : form.shape? = some shape) : shape.isImplemented = false ↔ form.access = .closed := by
  rw [form.access_eq, h]
  cases himpl : shape.isImplemented with
  | false => simp [himpl]
  | true => simp [himpl]

end Xref
