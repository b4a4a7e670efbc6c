/-!
# Shapes of tree nodes

Every node of a tree has a shape. Shapes name what was left out of an index, and decide what goes
in: a tree walk enters the shapes that are implemented and that its settings support.
-/

namespace Xref

/-- The shape of a node. -/
inductive Shape where
  -- Bindings.
  | funBind | patBind | varBind | absBinds | groupedBinds | ungroupedBinds
  -- Signatures.
  | typeSig | classOpSig | fixitySig | inlineSig
  -- Declarations of types and classes.
  | dataDecl | synonymDecl | classDecl | conDecl | conField | classInstance
  -- Alternatives and their right-hand sides.
  | alternatives | alternative | guardedRhss | guardedRhs
  -- Expressions.
  | varExpr | recordExpr | recordUpdate | recordField | litExpr | lambda | lambdaCase | app
  | typeApp | opApp | negation | parExpr | sectionL | sectionR | tupleExpr | caseExpr | ifExpr
  | multiIf | letExpr | doExpr | listExpr | arithSeq | sigExpr | wrap
  -- Statements.
  | bindStmt | bodyStmt | letStmt | lastStmt | recStmt
  -- Patterns.
  | wildPat | varPat | asPat | lazyPat | bangPat | parPat | listPat | tuplePat | conPat | patField
  | litPat | viewPat | sigPat
  -- Types.
  | nameType | appType | funType | listType | tupleType | parType | forAllType | qualType
  | kindSigType | bangType | opType | litType | wildcardType | userTyVar | kindedTyVar
  -- Recognised, and never looked into.
  | standaloneDeriving | foreignDecl | ruleDecl | spliceDecl | patSynBind | implicitParams
  | specSig | familyDecl | gadtConDecl | dataFamilyInstance | typeFamilyInstance | spliceExpr
  | bracket | arrowProc | static | hole | parStmt | applicativeStmt | nPlusKPat | splicePat
  | spliceType
deriving DecidableEq

namespace Shape

/-- The name under which a shape is reported. -/
def name : Shape → String
  | funBind => "FunBind"
  | patBind => "PatBind"
  | varBind => "VarBind"
  | absBinds => "AbsBinds"
  | groupedBinds => "ValBindsGrouped"
  | ungroupedBinds => "ValBindsUngrouped"
  | typeSig => "TypeSig"
  | classOpSig => "ClassOpSig"
  | fixitySig => "FixitySig"
  | inlineSig => "InlineSig"
  | dataDecl => "DataDecl"
  | synonymDecl => "SynonymDecl"
  | classDecl => "ClassDecl"
  | conDecl => "ConDeclH98"
  | conField => "ConDeclField"
  | classInstance => "ClassInstance"
  | alternatives => "MatchGroup"
  | alternative => "Match"
  | guardedRhss => "GuardedRhss"
  | guardedRhs => "GuardedRhs"
  | varExpr => "ExprVar"
  | recordExpr => "RecordCon"
  | recordUpdate => "RecordUpd"
  | recordField => "RecordField"
  | litExpr => "ExprLit"
  | lambda => "Lambda"
  | lambdaCase => "LambdaCase"
  | app => "App"
  | typeApp => "TypeApp"
  | opApp => "OpApp"
  | negation => "Negation"
  | parExpr => "ExprPar"
  | sectionL => "SectionL"
  | sectionR => "SectionR"
  | tupleExpr => "ExplicitTuple"
  | caseExpr => "Case"
  | ifExpr => "If"
  | multiIf => "MultiIf"
  | letExpr => "LetExpr"
  | doExpr => "DoExpr"
  | listExpr => "ExplicitList"
  | arithSeq => "ArithSeq"
  | sigExpr => "ExprWithSig"
  | wrap => "Wrap"
  | bindStmt => "BindStmt"
  | bodyStmt => "BodyStmt"
  | letStmt => "LetStmt"
  | lastStmt => "LastStmt"
  | recStmt => "RecStmt"
  | wildPat => "WildPat"
  | varPat => "VarPat"
  | asPat => "AsPat"
  | lazyPat => "LazyPat"
  | bangPat => "BangPat"
  | parPat => "ParPat"
  | listPat => "ListPat"
  | tuplePat => "TuplePat"
  | conPat => "ConPat"
  | patField => "PatField"
  | litPat => "LitPat"
  | viewPat => "ViewPat"
  | sigPat => "SigPat"
  | nameType => "TyVar"
  | appType => "TyApp"
  | funType => "FunTy"
  | listType => "ListTy"
  | tupleType => "TupleTy"
  | parType => "ParTy"
  | forAllType => "ForAllTy"
  | qualType => "QualTy"
  | kindSigType => "KindSigTy"
  | bangType => "BangTy"
  | opType => "OpTy"
  | litType => "TyLit"
  | wildcardType => "WildcardTy"
  | userTyVar => "UserTyVar"
  | kindedTyVar => "KindedTyVar"
  | standaloneDeriving => "StandaloneDeriving"
  | foreignDecl => "ForeignDecl"
  | ruleDecl => "RuleDecl"
  | spliceDecl => "SpliceDecl"
  | patSynBind => "PatSynBind"
  | implicitParams => "ImplicitParamBinds"
  | specSig => "SpecSig"
  | familyDecl => "FamilyDecl"
  | gadtConDecl => "ConDeclGadt"
  | dataFamilyInstance => "DataFamilyInstance"
  | typeFamilyInstance => "TypeFamilyInstance"
  | spliceExpr => "ExprSplice"
  | bracket => "Bracket"
  | arrowProc => "Proc"
  | static => "Static"
  | hole => "Hole"
  | parStmt => "ParStmt"
  | applicativeStmt => "ApplicativeStmt"
  | nPlusKPat => "NPlusKPat"
  | splicePat => "PatSplice"
  | spliceType => "TySplice"

/-- Every shape, in the order of declaration. -/
def all : List Shape :=
  [.funBind, .patBind, .varBind, .absBinds, .groupedBinds, .ungroupedBinds, .typeSig, .classOpSig,
   .fixitySig, .inlineSig, .dataDecl, .synonymDecl, .classDecl, .conDecl, .conField,
   .classInstance, .alternatives, .alternative, .guardedRhss, .guardedRhs, .varExpr, .recordExpr,
   .recordUpdate, .recordField, .litExpr, .lambda, .lambdaCase, .app, .typeApp, .opApp, .negation,
   .parExpr, .sectionL, .sectionR, .tupleExpr, .caseExpr, .ifExpr, .multiIf, .letExpr, .doExpr,
   .listExpr, .arithSeq, .sigExpr, .wrap, .bindStmt, .bodyStmt, .letStmt, .lastStmt, .recStmt,
   .wildPat, .varPat, .asPat, .lazyPat, .bangPat, .parPat, .listPat, .tuplePat, .conPat,
   .patField, .litPat, .viewPat, .sigPat, .nameType, .appType, .funType, .listType, .tupleType,
   .parType, .forAllType, .qualType, .kindSigType, .bangType, .opType, .litType, .wildcardType,
   .userTyVar, .kindedTyVar, .standaloneDeriving, .foreignDecl, .ruleDecl, .spliceDecl,
   .patSynBind, .implicitParams, .specSig, .familyDecl, .gadtConDecl, .dataFamilyInstance,
   .typeFamilyInstance, .spliceExpr, .bracket, .arrowProc, .static, .hole, .parStmt,
   .applicativeStmt, .nPlusKPat, .splicePat, .spliceType]

/-- A tree walk knows what such a node holds. -/
def isImplemented : Shape → Bool
  | standaloneDeriving | foreignDecl | ruleDecl | spliceDecl | patSynBind | implicitParams
  | specSig | familyDecl | gadtConDecl | dataFamilyInstance | typeFamilyInstance | spliceExpr
  | bracket | arrowProc | static | hole | parStmt | applicativeStmt | nPlusKPat | splicePat
  | spliceType => false
  | _ => true

/-- The shapes that a tree walk can enter. -/
def implemented : List Shape :=
  all.filter isImplemented

/-- The shapes that a tree walk recognises and never enters. -/
def unimplemented : List Shape :=
  all.filter fun shape => !shape.isImplemented

/-- The shape of the given name. -/
def ofName? (name : String) : Option Shape :=
  all.find? fun shape => shape.name = name

/-- Every shape is listed. -/
theorem mem_all (shape : Shape) : shape ∈ all := by
  cases shape <;> decide

end Shape

end Xref
