import ViewCompiler.Markup.Node
import ViewCompiler.Proofs.Markup.Segment

/-!
# The tags that a template can have

A template records its start tags by name, and a name ends at a blank: no recorded tag goes over the end of a line
(`oneLine_of_recorded`). Markup may be any tree; `tagsOf` are its tags at every depth.
-/

namespace ViewCompiler

/-- A text in which no line ends. -/
def Text.OneLine (t : Text) : Prop := '\n' ∉ t ∧ '\r' ∉ t

namespace Markup

mutual

def Node.tags : Node → List Text
  | .text _ _ | .comment _ _ => []
  | .element tag _ _ children => tag :: tagsOf children

/-- The tags of markup, at every depth. -/
def tagsOf : List Node → List Text
  | [] => []
  | node :: others => node.tags ++ tagsOf others

end

theorem IsName.oneLine {name : Text} (h : IsName name) : name.OneLine :=
  ⟨h.no_line_feed, fun hmem => absurd (h.isNameChar _ hmem) (by decide)⟩

theorem Cut.isName_of_mem {unread : Option Text} {t rest : Text} {parts : List Segment} {offset : Nat}
    (h : Cut unread rest parts) : ∀ tag ∈ startTagsFrom t offset parts, IsName tag.name := by
  induction h generalizing offset with
  | nil => exact nofun
  | @cons unread segment rest parts hfound _ ih =>
      cases segment with
      | verbatim source => exact ih
      | endTag source name => exact ih
      | startTag source name attributes selfClosing =>
          refine List.forall_mem_cons.2 ⟨?_, ih⟩
          cases (hfound.of_tag fun _ => Segment.noConfusion).1 with
          | startTag htag => exact htag.1

theorem oneLine_of_recorded {template : Text} {numbered : Numbered} (h : number template = .ok numbered) :
    ∀ tag ∈ numbered.tags, tag.name.OneLine := by
  obtain ⟨parts, hcut, rfl⟩ := number_eq_ok_iff.1 h
  exact fun tag htag => (hcut.isName_of_mem tag htag).oneLine

end Markup

end ViewCompiler
