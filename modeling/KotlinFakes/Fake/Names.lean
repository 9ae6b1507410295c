/-!
# Names of generated declarations

The classes and the function that are generated for a subject.
-/

namespace KotlinFakes.Fake

/-- The class that implements or extends the subject. -/
def implementationClass (subject : String) : String := "Fake" ++ subject ++ "Impl"

/-- The class whose methods configure the fake. -/
def configurationClass (subject : String) : String := "Fake" ++ subject ++ "Config"

/-- The function that makes a fake. -/
def factoryFunction (subject : String) : String := "fake" ++ subject

/-- The file that holds the three. -/
def fileName (subject : String) : String := implementationClass subject ++ ".kt"

end KotlinFakes.Fake
