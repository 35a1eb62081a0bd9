/-!
# Well-known property keys

These texts travel inside endpoint descriptions, so they never change.
-/
namespace RemoteServices.Key

def objectClass : String := "objectClass"

def serviceId : String := "service.id"

def exportedInterfaces : String := "service.exported.interfaces"

def exportedConfigs : String := "service.exported.configs"

/-- Marks endpoint descriptions and imported proxies. -/
def imported : String := "service.imported"

def importedConfigs : String := "service.imported.configs"

def endpointId : String := "endpoint.id"

/-- The number of the exported service inside the exporting process. -/
def endpointServiceId : String := "endpoint.service.id"

def frameworkUuid : String := "endpoint.framework.uuid"

/-- The name under which a factory is bound, in place of its own. -/
def factoryName : String := "remote.service.name"

def httpConfigurationType : String := "tether.remote.admin.http"

def httpUrl : String := "tether.remote.admin.http.url"

/-- The request for every advertised interface. -/
def everything : String := "*"

end RemoteServices.Key
