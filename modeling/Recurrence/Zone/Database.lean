import Recurrence.Zone.Minute

namespace Recurrence

/-- Where zones are looked up: by an exact name, and by a loosely written one, which leads to a short table.
    What is done with a zone does not depend on which zones there are. -/
structure ZoneDatabase where
  named? : String → Option Zone
  looselyNamed? : String → Option MinuteZone

end Recurrence
