import PodManual.Failure

/-!
# Consoles

A console prints messages in markup and texts without.  What becomes of the markup is
the console's own affair: the program hands a message over and prints what comes back.
-/

namespace PodManual

/-- What a console prints for a message in markup, unless it refuses the message, and
for a text without markup. -/
structure Console where
  markup : Text -> Except Failure Text
  plain : Text -> Text

end PodManual
