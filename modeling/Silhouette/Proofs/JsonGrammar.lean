import Silhouette.Json.Tree

/-! What a JSON value is written as, token by token, and that reading accepts exactly what is written. A run of the
reader keeps an account of the tokens it has taken: what the finished values are written as, and what the open
containers hold so far. At the end the account is the value that comes out, so a text is an object only if its
tokens are those of an object. -/
namespace Silhouette.Json

/-- Parts with a comma between neighbours. -/
def separated (parts : List (List Token)) : List Token := [Token.comma].intercalate parts

@[simp]
theorem separated_nil : separated [] = [] := rfl

@[simp]
theorem separated_singleton (part : List Token) : separated [part] = part := by
  simp [separated, List.intercalate]

@[simp]
theorem separated_cons_cons (part next : List Token) (more : List (List Token)) :
    separated (part :: next :: more) = part ++ .comma :: separated (next :: more) := by
  simp [separated, List.intercalate]

/-- All parts but the last have a comma behind them. -/
theorem separated_concat (front : List (List Token)) (last : List Token) :
    separated (front ++ [last]) = front.flatMap (· ++ [.comma]) ++ last := by
  induction front with
  | nil => simp
  | cons part rest ih =>
    cases rest with
    | nil => simp
    | cons next more =>
      simp only [List.cons_append, separated_cons_cons, List.flatMap_cons, List.append_assoc,
        List.nil_append] at ih ⊢
      rw [ih]

namespace Tree

mutual

/-- The tokens of a value. -/
def tokens : Tree → List Token
  | null => [.null]
  | bool b => [.bool b]
  | number l => [.number l]
  | string s => [.string s]
  | array items => .openArray :: (separated (itemTokens items) ++ [.closeArray])
  | object members => .openObject :: (separated (memberTokens members) ++ [.closeObject])

/-- The tokens of each item. -/
def itemTokens : List Tree → List (List Token)
  | [] => []
  | t :: rest => tokens t :: itemTokens rest

/-- The tokens of each member: its key, a colon and its value. -/
def memberTokens : List (List Piece × Tree) → List (List Token)
  | [] => []
  | (k, t) :: rest => (.string k :: .colon :: tokens t) :: memberTokens rest

end

theorem itemTokens_append (front back : List Tree) :
    itemTokens (front ++ back) = itemTokens front ++ itemTokens back := by
  induction front with
  | nil => rfl
  | cons t rest ih => simp only [List.cons_append, itemTokens, ih]

theorem memberTokens_append (front back : List (List Piece × Tree)) :
    memberTokens (front ++ back) = memberTokens front ++ memberTokens back := by
  induction front with
  | nil => rfl
  | cons m rest ih => simp only [List.cons_append, memberTokens, ih]

end Tree

/-! ## The account of a run -/

/-- What stands in front of a value in an open container: the bracket, and what came before with a comma behind
each. -/
def Frame.tokens : Frame → List Token
  | .array items => .openArray :: (Tree.itemTokens items.reverse).flatMap (· ++ [.comma])
  | .object members k =>
    .openObject :: ((Tree.memberTokens members.reverse).flatMap (· ++ [.comma]) ++ [.string k, .colon])

/-- What stands in front of a value in all open containers. -/
def stackTokens : List Frame → List Token
  | [] => []
  | frame :: outer => stackTokens outer ++ frame.tokens

namespace Progress

/-- The tokens that have been taken. -/
def tokens : Progress → List Token
  | .value stack => stackTokens stack
  | .firstItem stack => stackTokens stack ++ [.openArray]
  | .firstKey stack => stackTokens stack ++ [.openObject]
  | .key members stack =>
    stackTokens stack ++ .openObject :: (Tree.memberTokens members.reverse).flatMap (· ++ [.comma])
  | .colon members k stack =>
    stackTokens stack ++
      .openObject :: ((Tree.memberTokens members.reverse).flatMap (· ++ [.comma]) ++ [.string k])
  | .done t stack => stackTokens stack ++ t.tokens

variable {p p' : Progress} {token : Token} {taken : List Token} {stack : List Frame}

theorem start_tokens (began : start stack token = some p) :
    p.tokens = stackTokens stack ++ [token] := by
  unfold start at began
  split at began <;> cases began <;> rfl

/-- One step takes one token into the account. -/
theorem step_tokens (next : p.step token = some p') : p'.tokens = p.tokens ++ [token] := by
  unfold step at next
  split at next
  · exact start_tokens next
  · cases next
    simp [tokens, Tree.tokens, Tree.itemTokens]
  · rw [start_tokens next]
    simp [tokens, stackTokens, Frame.tokens, Tree.itemTokens]
  · cases next
    simp [tokens, Tree.tokens, Tree.memberTokens]
  · cases next
    simp [tokens, Tree.memberTokens]
  · cases next
    simp [tokens]
  · cases next
    simp [tokens, stackTokens, Frame.tokens]
  · cases next
    simp [tokens, stackTokens, Frame.tokens, Tree.itemTokens_append, Tree.itemTokens]
  · cases next
    simp [tokens, stackTokens, Frame.tokens, Tree.tokens, Tree.itemTokens_append, Tree.itemTokens,
      separated_concat]
  · cases next
    simp [tokens, stackTokens, Frame.tokens, Tree.memberTokens_append, Tree.memberTokens]
  · cases next
    simp [tokens, stackTokens, Frame.tokens, Tree.tokens, Tree.memberTokens_append, Tree.memberTokens,
      separated_concat]
  · cases next

/-- A run takes its tokens into the account. -/
theorem run_tokens (ran : taken.foldlM step p = some p') : p'.tokens = p.tokens ++ taken := by
  induction taken generalizing p with
  | nil =>
    cases ran
    simp
  | cons token rest ih =>
    obtain ⟨middle, next, more⟩ := Option.bind_eq_some_iff.mp ran
    rw [ih more, step_tokens next, List.append_assoc, List.singleton_append]

/-! ## Reading what is written -/

/-- Wherever a value may begin, its tokens finish it. -/
def Reads (t : Tree) : Prop :=
  ∀ stack, t.tokens.foldlM step (.value stack) = some (.done t stack)

/-- The first item is read like any other, for no value begins with the bracket that closes an array. -/
theorem run_firstItem (t : Tree) (rest : List Tree) (more : List Token) (stack : List Frame) :
    (separated (Tree.itemTokens (t :: rest)) ++ more).foldlM step (.firstItem stack) =
      (separated (Tree.itemTokens (t :: rest)) ++ more).foldlM step (.value (.array [] :: stack)) := by
  have opening : ∀ tail, (t.tokens ++ tail).foldlM step (.firstItem stack) =
      (t.tokens ++ tail).foldlM step (.value (.array [] :: stack)) := by
    intro tail
    cases t <;> rfl
  cases rest with
  | nil =>
    simp only [Tree.itemTokens, separated_singleton]
    exact opening more
  | cons next others =>
    simp only [Tree.itemTokens, separated_cons_cons, List.append_assoc]
    exact opening _

theorem run_items {t : Tree} {rest : List Tree} (readable : ∀ item ∈ t :: rest, Reads item)
    (before : List Tree) (stack : List Frame) :
    (separated (Tree.itemTokens (t :: rest)) ++ [Token.closeArray]).foldlM step
        (.value (.array before :: stack)) =
      some (.done (.array (before.reverse ++ t :: rest)) stack) := by
  have item := readable t List.mem_cons_self (.array before :: stack)
  induction rest generalizing t before with
  | nil => simp [Tree.itemTokens, item, step]
  | cons next more ih =>
    have later := (List.forall_mem_cons.mp readable).2
    have others := ih later (t :: before) (later next List.mem_cons_self _)
    simp only [Tree.itemTokens, separated_cons_cons, List.append_assoc, List.foldlM_append, item] at others ⊢
    simpa [step] using others

theorem run_members {m : List Piece × Tree} {rest : List (List Piece × Tree)}
    (readable : ∀ member ∈ m :: rest, Reads member.2) (before : List (List Piece × Tree))
    (stack : List Frame) :
    (separated (Tree.memberTokens (m :: rest)) ++ [Token.closeObject]).foldlM step
        (.key before stack) =
      some (.done (.object (before.reverse ++ m :: rest)) stack) := by
  obtain ⟨k, t⟩ := m
  have value := readable (k, t) List.mem_cons_self (.object before k :: stack)
  induction rest generalizing k t before with
  | nil => simp [Tree.memberTokens, value, step]
  | cons next more ih =>
    obtain ⟨k', t'⟩ := next
    have later := (List.forall_mem_cons.mp readable).2
    have others := ih ((k, t) :: before) k' t' later (later (k', t') List.mem_cons_self _)
    simp only [Tree.memberTokens, separated_cons_cons, List.append_assoc, List.foldlM_append,
      List.cons_append, List.foldlM_cons] at others ⊢
    simpa [step, value] using others

/-- The tokens of a value are read as that value. -/
theorem reads (t : Tree) : Reads t := by
  intro stack
  cases t with
  | null => rfl
  | bool b => rfl
  | number l => rfl
  | string s => rfl
  | array items =>
    cases items with
    | nil => rfl
    | cons t rest =>
      have items : ∀ item ∈ t :: rest, Reads item := fun item here => reads item
      have all := run_items items [] stack
      rw [← run_firstItem] at all
      exact all
  | object members =>
    cases members with
    | nil => rfl
    | cons m rest =>
      -- an object that has just been opened takes a key like one with members before
      have members : ∀ member ∈ m :: rest, Reads member.2 := fun member here => reads member.2
      have all := run_members members [] stack
      cases rest with
      | nil => exact all
      | cons next more => exact all
  termination_by t
  decreasing_by
    · have smaller := List.sizeOf_lt_of_mem here
      simp only [Tree.array.sizeOf_spec]
      omega
    · have smaller := List.sizeOf_lt_of_mem here
      have part : sizeOf member.2 < sizeOf member := by
        cases member
        simp only [Prod.mk.sizeOf_spec]
        omega
      simp only [Tree.object.sizeOf_spec]
      omega

end Progress

namespace Tree

/-- Tokens make a value just if they are the tokens of that value. -/
theorem ofTokens?_eq_some_iff {taken : List Token} {t : Tree} :
    ofTokens? taken = some t ↔ taken = t.tokens := by
  constructor
  · intro made
    unfold ofTokens? at made
    split at made
    · rename_i tree ran
      cases made
      have account := Progress.run_tokens ran
      simpa [Progress.tokens, stackTokens] using account.symm
    · cases made
  · rintro rfl
    rw [ofTokens?, Progress.reads t []]

/-- A text is read as a value just if its tokens are the tokens of that value. -/
theorem read?_eq_some_iff {s : String} {t : Tree} :
    read? s = some t ↔ Token.scan s.toList = some t.tokens := by
  rw [read?, Option.bind_eq_some_iff]
  constructor
  · rintro ⟨taken, scanned, made⟩
    rw [scanned, ofTokens?_eq_some_iff.mp made]
  · intro scanned
    exact ⟨t.tokens, scanned, ofTokens?_eq_some_iff.mpr rfl⟩

end Tree

end Silhouette.Json
