import ModelineAssist.Registry.Basic

/-!
The options that integrations know. They are listed in the order of names, which makes the list
itself a registry.
-/
namespace ModelineAssist.Registry

/-- The option that configures a trait. -/
def traitName : String := "trait"

/-- The option that adds an external library. -/
def dependencyName : String := "dependency"

/-- The option that adds a property. -/
def propertyName : String := "property"

/-- The deprecated option that binds a file of properties. -/
def propertyFileName : String := "property-file"

/-- The option that adds a resource. -/
def resourceName : String := "resource"

/-- The option that adds an API specification. -/
def openApiName : String := "open-api"

/-- The note on options that came with a later release. -/
def availabilityNote : String :=
  "Option is available since Community 1.5 and Red Hat productized 1.4"

/-- The known options. -/
def builtinEntries : List Entry :=
  [⟨"build-property",
      "Add a build time property or properties file (syntax: " ++
      "[my-key=my-value|file:/path/to/my-conf.properties]\n\n" ++ availabilityNote, false⟩,
   ⟨"config",
      "Add a runtime configuration from a Configmap, Secret or file " ++
      "(syntax: [configmap|secret|file]:name[/key], where name represents the local file path " ++
      "or the configmap/secret name and key optionally represents the configmap/secret key " ++
      "to be filtered)\n\n" ++ availabilityNote, false⟩,
   ⟨dependencyName,
      "An external library that should be included. E.g. for Maven dependencies " ++
      "\"dependency=mvn:org.my/app:1.0\"", false⟩,
   ⟨"env",
      "Set an environment variable in the integration container. E.g \"env=MY_VAR=my-value\"",
      false⟩,
   ⟨"label", "Add a label to the integration. E.g. \"label=my.company=hello\"", false⟩,
   ⟨"name", "The integration name", false⟩,
   ⟨openApiName, "Add an OpenAPI v2 spec (file path)", false⟩,
   ⟨"profile", "Trait profile used for deployment", false⟩,
   ⟨propertyName, "Add a camel property", false⟩,
   ⟨propertyFileName,
      "Bind a property file to the integration. E.g. " ++
      "\"property-file=integration.properties\"\n\n" ++
      "Deprecated since Community 1.5 and Red Hat productized 1.4. " ++
      "Replaced by property=file:integration.properties", true⟩,
   ⟨resourceName, "Add a resource", false⟩,
   ⟨traitName, "Configure a trait. E.g. \"trait=service.enabled=false\"", false⟩]

/-- The registry of the known options. -/
def builtin : Registry := ⟨builtinEntries, by decide⟩

end ModelineAssist.Registry
