import StoryCatalog.Syntax.View
import StoryCatalog.Text.Quoted

/-!
# Story chains

A chain is a call of the group function followed by any number of method calls, such as
`storiesOf('Button').add('plain', f).add('wide', g)`. The group call names the kind, and each call
of the story method declares a story.
-/

namespace StoryCatalog

/-- The two names that make up a chain. -/
structure Pattern where
  group : Text
  method : Text
deriving DecidableEq, Repr

/-- The names that are looked for unless the settings say otherwise. -/
def Pattern.standard : Pattern :=
  ⟨"storiesOf", "add"⟩

/-- The name of a kind or story that is not a literal, or is the empty one. -/
def unknownName : Text := "[Unknown]"

/-- A name together with the span that declares it. -/
structure NamedSpan where
  name : Text
  span : Span
deriving DecidableEq, Repr

namespace Chain

/-- A chain read in full. The group call comes first among the links and the outermost call last;
the stories stand in the same order. -/
structure Match (N : Type) where
  kind : NamedSpan
  stories : List NamedSpan
  links : List N

/-- Why a call is no chain. -/
inductive Reason where
  | objectNotCall
  | rootIs (name : Text)
  | calleeIs (shape : String)
deriving DecidableEq, Repr

/-- The reason in words. -/
def Reason.message : Reason → Text
  | .objectNotCall => "member access on a non-call object"
  | .rootIs name => "root call was " ++ name.quoted ++ ", not a group call"
  | .calleeIs shape => "unsupported callee shape: " ++ (shape : Text)

/-- A call that is no chain: the calls passed on the way down, outermost first, and the callee at
which the descent ended, if there is one. -/
structure Mismatch (N : Type) where
  reason : Reason
  links : List N
  terminal : Option N

/-- What the descent into a call ends with. -/
inductive Outcome (N : Type) where
  | matched (found : Match N)
  | mismatched (found : Mismatch N)

/-- An outcome with the nodes whose span was asked for on the way, in the order of asking. -/
structure Descent (N : Type) where
  outcome : Outcome N
  consulted : List N

end Chain

namespace View

open Chain

variable {N : Type} (view : View N)

/-- The name that a call's first argument spells: its value when it is a string literal that is
not empty. -/
def literalName (arguments : List N) : Text :=
  match arguments with
  | [] => unknownName
  | first :: _ =>
      match view.shape first with
      | .string value => if value.isEmpty then unknownName else value
      | _ => unknownName

/-- Go down the callees of a call. `links` holds the calls above it, the nearest first, `stories`
what they declare, and `consulted` the nodes whose span they asked for, the latest first. -/
def descend (pattern : Pattern) (node : N) (links : List N) (stories : List NamedSpan)
    (consulted : List N) : Descent N :=
  match _hnode : view.shape node with
  | .call none _ =>
      ⟨.mismatched ⟨.calleeIs "other", (node :: links).reverse, none⟩, consulted.reverse⟩
  | .call (some callee) arguments =>
      match _hcallee : view.shape callee with
      | .member (some object) property =>
          if view.isCall object then
            if property = some pattern.method then
              descend pattern object (node :: links)
                (⟨view.literalName arguments, view.span callee⟩ :: stories) (callee :: consulted)
            else descend pattern object (node :: links) stories consulted
          else
            ⟨.mismatched ⟨.objectNotCall, (node :: links).reverse, some callee⟩,
              consulted.reverse⟩
      | .member none _ =>
          ⟨.mismatched ⟨.objectNotCall, (node :: links).reverse, some callee⟩, consulted.reverse⟩
      | .identifier name =>
          if name = pattern.group then
            let shown := arguments.headD callee
            ⟨.matched ⟨⟨view.literalName arguments, view.span shown⟩, stories, node :: links⟩,
              (shown :: consulted).reverse⟩
          else
            ⟨.mismatched ⟨.rootIs name, (node :: links).reverse, some callee⟩, consulted.reverse⟩
      | shape =>
          ⟨.mismatched ⟨.calleeIs shape.name, (node :: links).reverse, some callee⟩,
            consulted.reverse⟩
  | _ => ⟨.mismatched ⟨.calleeIs "other", (node :: links).reverse, none⟩, consulted.reverse⟩
termination_by view.size node
decreasing_by
  all_goals
    have hcall := view.call_lt _hnode
    have hmember := view.member_lt _hcallee
    omega

/-- Read a call as the outermost call of a chain. -/
def recognize (pattern : Pattern) (node : N) : Outcome N :=
  (view.descend pattern node [] [] []).outcome

end View

end StoryCatalog
