import ReportDelivery.Json.Reader

/-! The steps of the JSON reader.

Lists and objects differ in few things: in how they are closed, what has to stand before the next
part, and what a part is. Each of these is one step here, and the equations say how the reader is
put together from them. -/
namespace ReportDelivery.Json

variable {α : Type}

/-! ### Steps -/

/-- The whole is closed after blanks, or there is more of it. -/
def closeOr (close : CodePoint) (whole : α) (more : Text → Except Stop (α × Text)) (t : Text) :
    Except Stop (α × Text) :=
  match skipBlank t with
  | [] => more []
  | c :: rest => if c = close then .ok (whole, rest) else more (c :: rest)

/-- The code point has to stand here; more follows after blanks. -/
def expect (c : CodePoint) (problem : Problem) (more : Text → Except Stop (α × Text)) :
    Text → Except Stop (α × Text)
  | [] => stop problem []
  | d :: rest => if d = c then more (skipBlank rest) else stop problem (d :: rest)

/-- The name of a member. -/
def memberName : Text → Except Stop (Text × Text)
  | [] => stop .nameExpected []
  | c :: rest => if c = .char '"' then string rest else stop .nameExpected (c :: rest)

/-- What follows a member: the end of the object, or a comma and the next member. -/
def afterMember (fuel : Nat) (done : Members) : Text → Except Stop (Value × Text) :=
  closeOr (.char '\x7d') (.object done) (expect (.char ',') .commaExpected (members fuel done))

/-- What follows an element: the end of the list, or a comma and the next element. `done` holds the
elements so far, last one first. -/
def afterElement (fuel : Nat) (done : List Value) : Text → Except Stop (Value × Text) :=
  closeOr (.char ']') (.list done.reverse) (expect (.char ',') .commaExpected (elements fuel done))

/-! ### Equations -/

/-- A value is read by the code point that it starts with. -/
theorem value_cons (fuel : Nat) (c : CodePoint) (body : Text) : value (fuel + 1) (c :: body) =
    if c = .char '"' then string body >>= fun (s, rest) => .ok (.str s, rest)
    else if c = .char '[' then closeOr (.char ']') (.list []) (elements fuel []) body
    else if c = .char '\x7b' then closeOr (.char '\x7d') (.object []) (members fuel []) body
    else word (c :: body) := by
  by_cases hquote : c = .char '"'
  · rw [hquote]
    rfl
  by_cases hbracket : c = .char '['
  · rw [hbracket, if_neg (by decide), if_pos rfl, value, closeOr]
    rcases skipBlank body with _ | ⟨d, rest⟩
    · rfl
    · by_cases hclose : d = .char ']'
      · rw [hclose]
        rfl
      · simp [hclose]
  by_cases hbrace : c = .char '\x7b'
  · rw [hbrace, if_neg (by decide), if_neg (by decide), if_pos rfl, value, closeOr]
    rcases skipBlank body with _ | ⟨d, rest⟩
    · rfl
    · by_cases hclose : d = .char '\x7d'
      · rw [hclose]
        rfl
      · simp [hclose]
  · rw [if_neg hquote, if_neg hbracket, if_neg hbrace, value]
    all_goals
      intro rest heq
      cases heq
      contradiction

theorem elements_succ (fuel : Nat) (done : List Value) (t : Text) :
    elements (fuel + 1) done t =
      value fuel t >>= fun (v, rest) => afterElement fuel (v :: done) rest := by
  rw [elements]
  refine congrArg (_ >>= ·) (funext fun (v, rest) => ?_)
  simp only [afterElement, closeOr]
  rcases skipBlank rest with _ | ⟨c, left⟩
  · rfl
  · by_cases hclose : c = .char ']'
    · rw [hclose]
      rfl
    · by_cases hcomma : c = .char ','
      · rw [hcomma]
        rfl
      · simp [hclose, hcomma, expect]

theorem members_succ (fuel : Nat) (done : Members) (t : Text) :
    members (fuel + 1) done t = memberName t >>= fun (key, rest) =>
      expect (.char ':') .colonExpected (fun body => value fuel body >>= fun (v, rest) =>
        afterMember fuel (Members.insert (.str key) v done) rest) (skipBlank rest) := by
  cases t with
  | nil => rfl
  | cons c t =>
    by_cases hquote : c = .char '"'
    · rw [hquote, members, memberName, if_pos rfl]
      refine congrArg (_ >>= ·) (funext fun (key, rest) => ?_)
      dsimp only
      rcases skipBlank rest with _ | ⟨d, body⟩
      · rfl
      · by_cases hcolon : d = .char ':'
        · rw [hcolon, expect, if_pos rfl]
          refine congrArg (_ >>= ·) (funext fun (v, left) => ?_)
          simp only [afterMember, closeOr]
          rcases skipBlank left with _ | ⟨e, last⟩
          · rfl
          · by_cases hclose : e = .char '\x7d'
            · rw [hclose]
              rfl
            · by_cases hcomma : e = .char ','
              · rw [hcomma]
                rfl
              · simp [hclose, hcomma, expect]
        · simp [hcolon, expect]
    · simp [members, memberName, hquote]
      rfl

end ReportDelivery.Json
