/-!
Why rule text is refused, and the message for each cause.
-/
namespace Cadence

/-- A cause for refusing rule text. -/
inductive RuleError where
  /-- The text does not have the shape of a rule; the detail says where. -/
  | malformed (detail : String)
  /-- A part or property name that rules do not have. -/
  | unknownKey (key : String)
  /-- A value that its part does not accept. -/
  | invalidValue (key value : String)
  /-- No `FREQ` part. -/
  | missingFrequency
  /-- Both `COUNT` and `UNTIL`. -/
  | conflictingBound
  /-- A timestamp that cannot be read, or has no instant in its zone. -/
  | malformedDate (field value : String)
  deriving DecidableEq, Repr

/-- The message of a cause. -/
def RuleError.message : RuleError → String
  | .malformed detail => "Malformed rule: " ++ detail
  | .unknownKey key => "Unknown rule part '" ++ key ++ "'"
  | .invalidValue key value => "Invalid value '" ++ value ++ "' for " ++ key
  | .missingFrequency => "Rule has no FREQ part"
  | .conflictingBound => "COUNT and UNTIL cannot be used together"
  | .malformedDate field value => "Malformed date '" ++ value ++ "' in " ++ field

end Cadence
