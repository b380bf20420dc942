import SqlRender.Expr.Node
import SqlRender.Proofs.Dialect.Worded
import SqlRender.Proofs.Render.Mute

/-!
# Nodes that leave no trace

When what rendering a node does leaves no trace, as an equation for each kind of node that may leave
none, and as a lemma for each compound one that always leaves some. The equations say it of the
pieces of the node.
-/

namespace SqlRender

/-! ## What a dialect has no words for -/

/-- Whether nothing is written where a text is expected. -/
def Wording.isNothing : Wording → Bool
  | .text s => s.isEmpty
  | .other o => !o.truthy

/-- Whether a dialect has no word for a lock. -/
def LockingClause.isMissing (g : Grammar) : LockingClause → Bool
  | .share => g.sharedLock.isNone
  | .update => g.exclusiveLock.isNone

/-! ## Wordings and pieces -/

theorem Wording.isMute_written (w : Wording) : w.written.isMute = w.isNothing := by
  cases w with
  | text s =>
      rw [written, Draft.isMute_text, isNothing, Bool.eq_iff_iff, decide_eq_true_iff,
        String.isEmpty_iff]
  | other o =>
      rw [written, isNothing]
      cases o.truthy <;> simp [Draft.empty]

theorem Wording.isMute_quoted {quote : String → String} (visible : ∀ s, quote s ≠ "")
    (w : Wording) : (w.quoted quote).isMute = false := by
  unfold quoted
  split
  · simp [visible]
  · rfl
  · rfl
  · rfl

namespace Piece

/-- Whether there is no trace of a piece in a phrase. -/
def isMute (p : Piece) : Bool :=
  p.part.all Draft.isMute

/-- Whether a piece stands for an action that leaves conflicting rows alone. -/
def doesNothing (p : Piece) : Bool :=
  match p.shape with
  | .conflictAction parts => parts.assignments.isNone
  | _ => false

theorem isMute_parts (ps : List Piece) : (parts ps).all Draft.isMute = ps.all isMute := by
  rw [parts, List.all_flatMap]
  rfl

@[simp] theorem isMute_grouped (p : Piece) : p.grouped.isMute = false := by
  unfold grouped
  split <;> exact Draft.isMute_group _

theorem isBlank_grouped (p : Piece) : p.grouped.isBlank = false := by
  unfold grouped
  split <;> exact Draft.isBlank_group _

end Piece

variable {g : Grammar}

/-! ## Drafts that always leave a trace -/

theorem Keyword.text_ne (k : Keyword) : k.text ≠ "" := by
  have listed : ∀ k ∈ all, k.text ≠ "" := by decide
  exact listed k k.mem_all

namespace Draft

@[simp] theorem isMute_case (cases : List (List Piece)) (operand alternative : Piece) :
    (Draft.case cases operand alternative).isMute = false := by
  unfold Draft.case
  split <;> simp

@[simp] theorem isMute_tableConstraint (kind : TableConstraintKind) (columns : List Piece)
    (expression : Piece) : (tableConstraint kind columns expression).isMute = false := by
  cases kind <;> simp [tableConstraint]

theorem isMute_enumDataType (worded : g.Worded) (cases : List Piece) :
    (enumDataType g cases).isMute = false := by
  have htype : (textType g).isMute = false := by
    unfold textType
    cases h : g.ownTypeName .text with
    | none => decide
    | some name => simp [worded.ownTypeName_ne h]
  unfold enumDataType
  split
  · simp
  · simp
  · exact htype

theorem isMute_namedEnum {verb : String} (h : verb ≠ "") (parts : List Draft) :
    (namedEnum g verb parts).isMute = false := by
  unfold namedEnum
  split <;> simp [h]

@[simp] theorem isMute_unionJoiner (operation : Piece) :
    (unionJoiner g operation).isMute = false := by
  unfold unionJoiner
  split
  · rename_i o _
    unfold SetOperation.draft
    split
    · rfl
    · cases o <;> simp [SetOperation.word]
  · split <;> rfl

end Draft

@[simp] theorem CreateTable.isMute_draft (c : CreateTable Piece) : (c.draft g).isMute = false := by
  unfold draft
  simp only
  split <;> simp

@[simp] theorem AlterTable.isMute_draft (a : AlterTable Piece) : (a.draft g).isMute = false := by
  unfold draft
  split <;> simp

@[simp] theorem Insert.isMute_draft (i : Insert Piece) : i.draft.isMute = false := by
  unfold draft
  split <;> simp

@[simp] theorem CreateTrigger.isMute_draft (c : CreateTrigger Piece) :
    (c.draft g).isMute = false := by
  unfold draft
  split <;> simp [clauses]

/-! ## Drafts that may leave no trace -/

namespace Draft

theorem isMute_locking (worded : g.Worded) (l : LockingClause) :
    (l.draft g).isMute = l.isMissing g := by
  cases l with
  | share =>
      rw [LockingClause.draft, LockingClause.isMissing]
      cases h : g.sharedLock with
      | none => rfl
      | some word => simp [worded.sharedLock_ne h]
  | update =>
      rw [LockingClause.draft, LockingClause.isMissing]
      cases h : g.exclusiveLock with
      | none => rfl
      | some word => simp [worded.exclusiveLock_ne h]

theorem isMute_qualified (owner name : Piece) :
    (qualified owner name).isMute = (owner.isAbsent && name.draft.isMute) := by
  unfold qualified
  cases owner.isAbsent <;> simp

theorem isMute_excludedColumn (name : Piece) :
    (excludedColumn g name).isMute = decide (g.upsertStyle = .unsupported) := by
  unfold excludedColumn
  split <;> rename_i h <;> simp [h, empty]

theorem isMute_subpath (target : Piece) (path : List Wording) :
    (subpath g target path).isMute = (!path.isEmpty && g.jsonAccess.isNone) := by
  unfold subpath
  cases path with
  -- an empty path is a fault, in any dialect
  | nil => rfl
  | cons key keys =>
      cases g.jsonAccess with
      | none => rfl
      | some access =>
          simp only [List.isEmpty_cons, Bool.false_eq_true, if_false, Option.isNone_some,
            Bool.and_false]
          cases access with
          | keyArrows => exact isMute_group _
          | extractCall | pathArrow =>
              rw [JsonAccess.draft]
              split <;> simp

theorem isMute_dataType (worded : g.Worded) (kind : DataKind) (custom : Piece) :
    (dataType g kind custom).isMute =
      (!(g.ownTypeName kind).isSome &&
        bif custom.isAbsent then decide (kind = .custom) else custom.draft.isMute) := by
  unfold dataType
  cases hown : g.ownTypeName kind with
  | some name => simp [worded.ownTypeName_ne hown]
  | none =>
      cases custom.isAbsent with
      | false => rfl
      | true => cases kind <;> rfl

theorem isMute_columnConstraint (kind : ColumnConstraintKind) (expression : Piece)
    (autoIncrement : Bool) :
    (columnConstraint g kind expression autoIncrement).isMute =
      (decide (kind = .foreignKey ∨ kind = .custom) && expression.draft.isMute) := by
  cases kind with
  | primaryKey =>
      unfold columnConstraint primaryKey
      simp only
      split
      · simp
      · split
        · simp
        · split <;> simp
  | _ => simp [columnConstraint]

theorem isMute_columnDefinition (column type : Piece) (constraints : List Piece) :
    (columnDefinition column type constraints).isMute =
      ([column, type].all Piece.isMute && (Piece.drafts constraints).all isMute) := by
  unfold columnDefinition
  cases constraints <;> simp [Piece.isMute, Piece.drafts, Bool.and_assoc]

theorem isMute_alterColumnType (worded : g.Worded) (column type : Piece) :
    (alterColumnType g column type).isMute =
      (g.alterTable.typeKeyword.isNone && [column, type].all Piece.isMute) := by
  unfold alterColumnType
  cases h : g.alterTable.typeKeyword with
  | none => simp [Piece.isMute]
  | some word => simp [worded.typeKeyword_ne h]

theorem isMute_constraint (algorithm name : Piece) :
    (constraint g algorithm name).isMute = (name.isAbsent && algorithm.isMute) := by
  unfold constraint
  cases hname : name.isAbsent with
  | false => split <;> simp
  | true =>
      have hshape : name.shape = .absent := by
        unfold Piece.isAbsent at hname
        split at hname
        · assumption
        · cases hname
      simp [Piece.constraintNameFault?, hshape, Piece.isMute]

theorem isMute_distinct (args : List Piece) : (distinct args).isMute = args.isEmpty := by
  cases args <;> simp [distinct, empty]

theorem isMute_commonTables (tables : List Piece) :
    (commonTables tables).isMute = tables.isEmpty := by
  cases tables <;> simp [commonTables, empty]

theorem isMute_returning (columns : List Piece) :
    (returning g columns).isMute = columns.isEmpty := by
  unfold returning
  cases columns with
  | nil => rfl
  | cons c cs => cases g.supportsReturning <;> simp

theorem isMute_conflictParts (targets : List Draft) (parts : ConflictParts) :
    (parts.draft g targets).isMute =
      (decide (g.upsertStyle = .onDuplicateKey) && parts.assignments.isNone) := by
  unfold ConflictParts.draft
  split
  · simp [*]
  · rename_i h
    rw [h]
    split <;> simp
  · rename_i h
    rw [h]
    split <;> simp [*, empty]

theorem isMute_conflictStrategy (targets : List Piece) (action : Piece) :
    (conflictStrategy g targets action).isMute =
      (decide (g.upsertStyle = .onDuplicateKey) && action.doesNothing) := by
  unfold conflictStrategy Piece.conflictParts Piece.doesNothing
  split
  · rename_i h
    simp [h]
  · cases action.shape with
    | conflictAction parts => exact isMute_conflictParts _ _
    | _ => simp

end Draft

theorem all_isMute_limitOffset (limit offset : Outline) :
    (limitOffset g limit offset).all Draft.isMute = (limitOffset g limit offset).isEmpty := by
  unfold limitOffset
  simp only
  split <;> split <;> try split
  all_goals simp

theorem Draft.all_isMute_listClause (keyword : String) (ds : List Draft) :
   (listClause keyword ds).all isMute = ds.all isMute := by
  unfold listClause
  cases ds <;> simp

/-- Members that are read as pairs are pairs. -/
theorem Piece.pairs_spec (members : List (List Piece)) :
    (∃ ps, pairs members = .ok ps ∧ members = ps.map fun p => [p.1, p.2]) ∨
      (∃ fault, pairs members = .error fault) ∧ members.all (·.length = 2) = false := by
  induction members with
  | nil => exact .inl ⟨[], rfl, rfl⟩
  | cons member members ih =>
      match member with
      | [] | [_] | _ :: _ :: _ :: _ => exact .inr ⟨⟨_, rfl⟩, rfl⟩
      | [first, second] =>
          rw [pairs, pair]
          rcases ih with ⟨ps, hps, rfl⟩ | ⟨⟨fault, hfault⟩, hall⟩
          · exact .inl ⟨(first, second) :: ps, by rw [hps]; rfl, rfl⟩
          · exact .inr ⟨⟨fault, by rw [hfault]; rfl⟩, by rw [List.all_cons, hall, Bool.and_false]⟩

theorem Union.isMute_draft (u : Union Piece) :
    (u.draft g).isMute =
      if u.members.isEmpty then [u.withTables, u.initial].all Piece.isMute
      else !g.unionFeatures.has .parenthesizedMembers && u.members.all (·.length = 2) &&
        (limitOffset g u.limit u.offset).isEmpty &&
        ((u.withTables :: u.initial :: u.members.flatten).all Piece.isMute &&
          (Piece.drafts u.orderBy).all Draft.isMute) := by
  unfold draft
  split
  · simp [Piece.isMute]
  · rcases Piece.pairs_spec u.members with ⟨ps, hps, hmembers⟩ | ⟨⟨fault, hfault⟩, hall⟩
    · have hpairs : (ps.flatMap fun p => p.1.part ++ p.2.part).all Draft.isMute =
          u.members.flatten.all Piece.isMute := by
        rw [hmembers]
        simp [Function.comp_def, Piece.isMute]
      have hlength : u.members.all (·.length = 2) = true := by
        rw [hmembers]
        simp
      rw [hps, hlength]
      simp only
      cases g.unionFeatures.has .parenthesizedMembers with
      -- members in parentheses have these at least
      | true => simp [member]
      | false =>
          simp only [Draft.isMute_phrase, List.all_append, Draft.all_isMute_listClause,
            all_isMute_limitOffset, member, Bool.false_eq_true, if_false, hpairs, List.all_cons]
          simp only [Piece.isMute, Bool.not_false, Bool.true_and, Bool.and_assoc]
          rw [Bool.and_comm (limitOffset g u.limit u.offset).isEmpty]
          simp only [Bool.and_assoc]
    -- a member that is no pair is a fault
    · simp [hfault, hall]

end SqlRender
