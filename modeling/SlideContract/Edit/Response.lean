import SlideContract.Edit.Close
import SlideContract.Edit.Field
import SlideContract.Edit.Prune

/-!
# Response schemas

What a model is asked for: the layout without the addresses of its media, which are filled in when
it is rendered, and with a speaker note.
-/

namespace SlideContract.Edit

/-- The fields that are filled in when a layout is rendered. -/
def mediaFields : List String := ["__image_url__", "__icon_url__"]

/-- The field of the speaker note. -/
def noteField : String := "__speaker_note__"

/-- The schema of the speaker note. -/
def noteSchema : Json :=
  .obj [("type", .str "string"), ("minLength", .int 100), ("maxLength", .int 250),
    ("description", .str "Speaker note for the slide")]

/-- The document of what a model is asked for. -/
def response (document : Json) : Except Fault Json := do
  let document ← prune mediaFields document
  let document ← addField document (.str noteField) noteSchema true
  close document

end SlideContract.Edit
